import ArgHints.Console.Emoji
import ArgHints.Text

/-!
# The console

A console is no part of the program: a command hands it a text, and what it makes of the text is
what is shown. Whatever is proved of the commands is proved for every console. The terminal stands
for the printing library that the program is built on, so that the commands can be run: it replaces
emoji codes, takes control characters out, reads tags in a notice and wraps lines at 80 columns. It
has no colours, and every character takes one column, so it breaks lines of wide characters later
than the library does.
-/

namespace ArgHints

structure Console where
  /-- What is shown of a text as it is. -/
  plain : String → String
  /-- What is shown of a text with tags in it, unless a tag closes what is not open. -/
  markup? : String → Option String

namespace Console

inductive Piece where
  | plain (text : List Char)
  | tag (content : List Char)
  deriving DecidableEq, Repr

def startsTag (c : Char) : Bool :=
  ('a' ≤ c && c ≤ 'z') || c == '#' || c == '/' || c == '@'

def readTag? (text : List Char) : Option (List Char × List Char) :=
  match text with
  | [] => none
  | first :: rest =>
    let inner := rest.takeWhile fun c => c != '[' && c != ']'
    match rest.drop inner.length with
    | ']' :: rest => if startsTag first then some (first :: inner, rest) else none
    | _ => none

/-- The pieces that a tag behind `slashes` backslashes makes: two backslashes stand for one, and a
single one left over makes the tag plain. -/
def tagPieces (slashes : Nat) (content : List Char) : List Piece :=
  let literal := if slashes / 2 = 0 then [] else [.plain (List.replicate (slashes / 2) '\\')]
  literal ++ [if slashes % 2 = 0 then .tag content else .plain ('[' :: content ++ [']'])]

def plainPiece (found : List Char) : List Piece :=
  if found.isEmpty then [] else [.plain found.reverse]

/-- Cuts a text into pieces in at most `fuel` steps. `found` holds the plain characters since the
last tag, last one first, and `slashes` counts the backslashes since then. -/
def piecesWithin (found : List Char) (slashes : Nat) : (fuel : Nat) → List Char → List Piece
  | 0, _ => []
  | fuel + 1, text =>
    match text with
    | [] => plainPiece (List.replicate slashes '\\' ++ found)
    | '\\' :: rest => piecesWithin found (slashes + 1) fuel rest
    | c :: rest =>
      match if c == '[' then readTag? rest else none with
      | some (content, rest) =>
        plainPiece found ++ tagPieces slashes content ++ piecesWithin [] 0 fuel rest
      | none => piecesWithin (c :: List.replicate slashes '\\' ++ found) 0 fuel rest

def pieces (text : List Char) : List Piece :=
  piecesWithin [] 0 (text.length + 1) text

def unescapeBrackets : List Char → List Char
  | '\\' :: '[' :: rest => '[' :: unescapeBrackets rest
  | c :: rest => c :: unescapeBrackets rest
  | [] => []

def styleNames : List (String × String) :=
  [("b", "bold"), ("d", "dim"), ("i", "italic"), ("u", "underline"), ("r", "reverse"),
   ("c", "conceal"), ("s", "strike"), ("o", "overline"), ("uu", "underline2")]

def styleOf (name : List Char) : List String :=
  (Text.words (name.map Char.toLower)).map fun word =>
    let word := String.ofList word
    ((styleNames.find? fun entry => entry.1 == word).map (·.2)).getD word

def closeStyle? (style : List String) : List (List String) → Option (List (List String))
  | [] => none
  | top :: rest => if top = style then some rest else (closeStyle? style rest).map (top :: ·)

def applyTag? (opened : List (List String)) (content : List Char) :
    Option (List (List String)) :=
  let name := content.takeWhile (· != '=')
  match name with
  | '/' :: name =>
    let name := Text.trim name
    if name.isEmpty then
      match opened with
      | [] => none
      | _ :: rest => some rest
    else closeStyle? (styleOf name) opened
  | name => some (styleOf name :: opened)

def plainPieces? (opened : List (List String)) : List Piece → Option (List (List Char))
  | [] => some []
  | .plain text :: rest => (plainPieces? opened rest).map (unescapeBrackets text :: ·)
  | .tag content :: rest => (applyTag? opened content).bind fun opened => plainPieces? opened rest

def columns : Nat := 80

def tabStop : Nat := 8

def expandTabs (column : Nat) : List Char → List Char
  | [] => []
  | '\t' :: rest =>
    let width := tabStop - column % tabStop
    List.replicate width ' ' ++ expandTabs (column + width) rest
  | c :: rest => c :: expandTabs (column + 1) rest

structure Filling where
  full : List (List Char)
  line : List Char
  deriving DecidableEq, Repr

def Filling.startLine (filling : Filling) (piece : List Char) : Filling :=
  -- The first piece starts no new line, unless something stands on the first one.
  if filling.full.isEmpty && filling.line.isEmpty then ⟨[], piece⟩
  else ⟨filling.line :: filling.full, piece⟩

def cut (fuel : Nat) (word : List Char) : List (List Char) :=
  match fuel, word with
  | fuel + 1, c :: rest =>
    (c :: rest).take columns :: cut fuel ((c :: rest).drop columns)
  | _, _ => []

def Filling.add (filling : Filling) (word : List Char) : Filling :=
  let width := (Text.trimEnd word).length
  -- Blanks at the end of a word may stand beyond the last column.
  if filling.line.length + width ≤ columns then { filling with line := filling.line ++ word }
  else if columns < width then (cut word.length word).foldl startLine filling
  else filling.startLine word

def firstWord (text : List Char) : List Char :=
  let blanks := text.takeWhile Text.isBlank
  let rest := text.drop blanks.length
  let body := rest.takeWhile (!Text.isBlank ·)
  blanks ++ body ++ (rest.drop body.length).takeWhile Text.isBlank

def wordsWithBlanks (fuel : Nat) (text : List Char) : List (List Char) :=
  match fuel, text with
  | fuel + 1, c :: rest =>
    let word := firstWord (c :: rest)
    word :: wordsWithBlanks fuel ((c :: rest).drop word.length)
  | _, _ => []

def cropEnd (line : List Char) : List Char :=
  let blanks := line.length - (Text.trimEnd line).length
  line.take (line.length - min blanks (line.length - columns))

def wrap (line : List Char) : List (List Char) :=
  let line := expandTabs 0 line
  let filling := (wordsWithBlanks line.length line).foldl Filling.add ⟨[], []⟩
  ((filling.line :: filling.full).reverse).map cropEnd

def isControl (c : Char) : Bool :=
  c == '\x07' || c == '\x08' || c == '\x0b' || c == '\x0c' || c == '\r'

def splitLines (text : List Char) : List (List Char) :=
  text.foldr
    (fun c lines =>
      if c == '\n' then [] :: lines
      else
        match lines with
        | [] => [[c]]
        | line :: rest => (c :: line) :: rest)
    [[]]

def layout (texts : List (List Char)) : String :=
  let text := texts.flatMap fun text => (replaceEmoji text).filter (!isControl ·)
  String.ofList (((splitLines text).flatMap wrap).flatMap fun line => line ++ ['\n'])

def showPlain (text : String) : String :=
  layout [text.toList]

def showMarkup? (text : String) : Option String :=
  (plainPieces? [] (pieces text.toList)).map layout

def terminal : Console where
  plain := showPlain
  markup? := showMarkup?

end Console

end ArgHints
