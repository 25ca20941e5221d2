import ArgHints.Snapshot
import ArgHints.Text.Line
import ArgHints.Text.Utf8

namespace ArgHints.CommandLine

inductive File where
  | directory
  | bytes (content : List UInt8)
  deriving Repr

/-- The parts of a path without those that lead nowhere; two dots lead up, as far as there is
anything above. -/
def normalize (parts : List (List Char)) : List (List Char) :=
  (parts.foldl
    (fun (done : List (List Char)) part =>
      if part == ['.', '.'] then
        match done with
        | [] => []
        | [[]] => [[]]
        | _ :: above => above
      else if part == ['.'] || (part.isEmpty && !done.isEmpty) then done
      else part :: done)
    []).reverse

def pathParts (path : List Char) : List (List Char) :=
  path.foldr
    (fun c parts =>
      if c == '/' then [] :: parts
      else
        match parts with
        | [] => [[c]]
        | part :: rest => (c :: part) :: rest)
    [[]]

def fullPath (directory path : String) : String :=
  let parts :=
    if path.toList.head? == some '/' then pathParts path.toList
    else pathParts directory.toList ++ pathParts path.toList
  String.ofList (['/'].intercalate (normalize parts))

/-- A text in which a newline ends every line that a carriage return, or both, ended. -/
def unifyNewlines (text : List Char) : List Char :=
  (text.foldl
    (fun (found, afterReturn) c =>
      if c == '\r' then ('\n' :: found, true)
      else if c == '\n' && afterReturn then (found, false)
      else (c :: found, false))
    (([] : List Char), false)).1.reverse

def readSource (content : List UInt8) : Except Text.Utf8.Error (List Char) :=
  (Text.Utf8.decode content).map unifyNewlines

structure Aim where
  offset : Option Int := none
  line : Option Int := none
  column : Option Int := none
  deriving DecidableEq, Repr

inductive AimError where
  | ambiguous
  | outside (offset : Int) (length : Nat)
  | missing
  | position (error : Text.PositionError)
  deriving DecidableEq, Repr

def AimError.message : AimError → String
  | ambiguous => "Use either --offset or --line/--column, not both"
  | outside offset length => s!"Offset {offset} outside 0..{length}"
  | missing => "A cursor position is required: --offset or --line"
  | position error => error.message

def Aim.snapshot (aim : Aim) (text : List Char) : Except AimError Snapshot :=
  match aim.offset, aim.line with
  | some offset, _ =>
    if aim.line.isSome || aim.column.isSome then .error .ambiguous
    else if offset < 0 ∨ text.length < offset then .error (.outside offset text.length)
    else .ok (.ofCursor text offset)
  | none, none => .error .missing
  | none, some line =>
    match Text.offsetAt text line (aim.column.getD 0) with
    | .error error => .error (.position error)
    | .ok offset => .ok (.ofCursor text offset)

end ArgHints.CommandLine
