import ArgHints.Config
import ArgHints.Decimal.Numeral
import ArgHints.Json.Reader

/-!
# Request bodies

The service names the fields of a body, their bounds and their defaults. How a value is read as a
number, a text or a truth value, and how faults are reported, are rules of the library that checks
bodies for the service; this module stands for it, without the wording of a fault. All the fields of
a body are checked before a request is refused, and the faults are reported in the order of the
fields. Numbers and truth values may also be given as texts, and numbers as truth values, where
nothing is lost by it.
-/

namespace ArgHints.Service

inductive Field where
  | text
  | cursor
  | line
  | column
  | strategy
  | bufferId
  | showName
  deriving DecidableEq, Repr

def Field.name : Field → String
  | text => "text"
  | cursor => "cursor"
  | line => "line"
  | column => "column"
  | strategy => "strategy"
  | bufferId => "buffer_id"
  | showName => "show_name"

inductive Defect where
  | missing
  | notJson
  | notObject
  | notText
  | notWhole
  | notWholeText
  | hasFraction
  | notFinite
  | tooSmall
  | notOffered
  | notBool
  | notBoolText
  deriving DecidableEq, Repr

def Defect.name : Defect → String
  | missing => "missing"
  | notJson => "json_invalid"
  | notObject => "model_attributes_type"
  | notText => "string_type"
  | notWhole => "int_type"
  | notWholeText => "int_parsing"
  | hasFraction => "int_from_float"
  | notFinite => "finite_number"
  | tooSmall => "greater_than_equal"
  | notOffered => "literal_error"
  | notBool => "bool_type"
  | notBoolText => "bool_parsing"

structure Fault where
  field : Option Field
  defect : Defect
  deriving DecidableEq, Repr

/-- A text that holds a whole number: a fraction of zeros is allowed. -/
def wholeText? (text : String) : Option Int :=
  let chars := Decimal.trimPadding text.toList
  let before := chars.takeWhile (· != '.')
  let after := chars.drop (before.length + 1)
  let (negative, digits) := Decimal.splitSign before
  (Decimal.dropUnderscores false digits).bind fun digits =>
    if digits.isEmpty || !digits.all Char.isDigit || !after.all (· == '0') then none
    else
      let size : Int := Decimal.digitsValue digits
      some (if negative then -size else size)

def wholeOfDecimal (value : Decimal.Binary64) : Except Defect Int :=
  match value, value.toInt? with
  | .finite .., some whole => .ok whole
  | .finite .., none => .error .hasFraction
  | _, _ => .error .notFinite

def whole (least : Int) (json : Json) : Except Defect Int := do
  let value ←
    match json with
    | .whole value => .ok value
    | .bool value => .ok (if value then 1 else 0)
    | .decimal value => wholeOfDecimal value
    | .text value =>
      match wholeText? value with
      | some whole => .ok whole
      | none => .error .notWholeText
    | _ => .error .notWhole
  if value < least then .error .tooSmall else .ok value

def boolWords : List (String × Bool) :=
  [("1", true), ("true", true), ("t", true), ("yes", true), ("y", true), ("on", true),
   ("0", false), ("false", false), ("f", false), ("no", false), ("n", false), ("off", false)]

def boolOfWhole : Int → Except Defect Bool
  | 1 => .ok true
  | 0 => .ok false
  | _ => .error .notBoolText

def bool : Json → Except Defect Bool
  | .bool value => .ok value
  | .whole value => boolOfWhole value
  | .decimal value =>
    match value.toInt? with
    | some whole => boolOfWhole whole
    | none => .error .notBool
  | .text value =>
    let lower := String.ofList (value.toList.map Char.toLower)
    match boolWords.find? fun word => word.1 == lower with
    | some word => .ok word.2
    | none => .error .notBoolText
  | _ => .error .notBool

def text : Json → Except Defect String
  | .text value => .ok value
  | _ => .error .notText

def optional {α : Type} (read : Json → Except Defect α) : Json → Except Defect (Option α)
  | .null => .ok none
  | json => (read json).map some

def strategy (json : Json) : Except Defect Strategy :=
  match text json with
  | .ok name =>
    match Strategy.ofName? name with
    | some strategy => .ok strategy
    | none => .error .notOffered
  | .error _ => .error .notOffered

inductive Checked (α : Type) where
  | sound (value : α)
  | faulty (faults : List Fault)
  deriving Repr

namespace Checked

variable {α β : Type}

def apply : Checked (α → β) → Checked α → Checked β
  | sound f, sound value => sound (f value)
  | sound _, faulty faults => faulty faults
  | faulty faults, sound _ => faulty faults
  | faulty first, faulty second => faulty (first ++ second)

def field (members : List (String × Json)) (field : Field) (default : Option α)
    (read : Json → Except Defect α) : Checked α :=
  match Json.member? field.name members, default with
  | some json, _ =>
    match read json with
    | .ok value => sound value
    | .error defect => faulty [⟨some field, defect⟩]
  | none, some value => sound value
  | none, none => faulty [⟨some field, .missing⟩]

end Checked

structure Place where
  text : List Char
  cursor : Option Int
  line : Option Int
  column : Int
  deriving DecidableEq, Repr

structure HintRequest where
  place : Place
  strategy : Strategy
  bufferId : Option String
  showName : Bool
  deriving DecidableEq, Repr

def place (members : List (String × Json)) : Checked Place :=
  ((((Checked.sound fun (text : String) => Place.mk text.toList).apply
    (.field members .text none text)).apply
    (.field members .cursor (some none) (optional (whole 0)))).apply
    (.field members .line (some none) (optional (whole 1)))).apply
    (.field members .column (some 0) (whole 0))

def hintRequest (members : List (String × Json)) : Checked HintRequest :=
  ((((Checked.sound HintRequest.mk).apply
    (place members)).apply
    (.field members .strategy (some .fallback) strategy)).apply
    (.field members .bufferId (some none) (optional text))).apply
    (.field members .showName (some false) bool)

inductive Body where
  | absent
  | document (text : List Char)
  | value (json : Json)

def dropByteOrderMark : List Char → List Char
  | '\ufeff' :: rest => rest
  | text => text

def Body.members : Body → Checked (List (String × Json))
  | absent => .faulty [⟨none, .missing⟩]
  | document [] => .faulty [⟨none, .missing⟩]
  | document text =>
    match Json.ofText (dropByteOrderMark text) with
    | none => .faulty [⟨none, .notJson⟩]
    | some (.object members) => .sound members
    | some _ => .faulty [⟨none, .notObject⟩]
  | value (.object members) => .sound members
  | value _ => .faulty [⟨none, .notObject⟩]

end ArgHints.Service
