import ArgHints.Decimal.Numeral
import ArgHints.Json

/-!
# Reading JSON

The service does not read documents itself: this module stands for the reader of the framework below
it. A document is cut into marks and scalar values; spaces, tabs, newlines and carriage returns
between them are skipped. A number has no leading zeros, and digits on both sides of a point. A text
holds no control characters and writes characters beyond U+FFFF, if escaped, as two halves; a half
on its own, which no text here can hold, makes the document unreadable.
-/

namespace ArgHints.Json

inductive Token where
  | openArray
  | closeArray
  | openObject
  | closeObject
  | colon
  | comma
  | scalar (value : Json)

namespace Token

def ofMark? : Char → Option Token
  | '[' => some openArray
  | ']' => some closeArray
  | '\x7b' => some openObject
  | '\x7d' => some closeObject
  | ':' => some colon
  | ',' => some comma
  | _ => none

def words : List (List Char × Json) :=
  [("null".toList, .null), ("true".toList, .bool true), ("false".toList, .bool false),
   ("NaN".toList, .decimal .nan), ("Infinity".toList, .decimal (.infinite false)),
   ("-Infinity".toList, .decimal (.infinite true))]

def readWord? (chars : List Char) : Option (Json × List Char) :=
  (words.find? fun word => word.1.isPrefixOf chars).map fun word =>
    (word.2, chars.drop word.1.length)

def hexValue? (digits : List Char) : Option Nat :=
  digits.foldlM
    (fun n c =>
      let c := c.toLower
      if c.isDigit then some (16 * n + (c.toNat - 48))
      else if 'a' ≤ c ∧ c ≤ 'f' then some (16 * n + (c.toNat - 87))
      else none)
    0

def unescape? : Char → Option Char
  | '\x22' => some '\x22'
  | '\\' => some '\\'
  | '/' => some '/'
  | 'b' => some '\x08'
  | 'f' => some '\x0c'
  | 'n' => some '\n'
  | 'r' => some '\r'
  | 't' => some '\t'
  | _ => none

/-- Adds a code unit to a text. `high` is the first half of a character if the second one is due;
the answer is the text and what is due after the unit. -/
def addUnit? (found : List Char) (high : Option Nat) (unit : Nat) :
    Option (List Char × Option Nat) :=
  let isHigh := 0xd800 ≤ unit && unit < 0xdc00
  let isLow := 0xdc00 ≤ unit && unit < 0xe000
  match high with
  | some first =>
    if isLow then
      some (Char.ofNat (0x10000 + (first - 0xd800) * 0x400 + (unit - 0xdc00)) :: found, none)
    else none
  | none =>
    if isHigh then some (found, some unit)
    else if isLow then none
    else some (Char.ofNat unit :: found, none)

def readText? (found : List Char) (high : Option Nat) : List Char → Option (String × List Char)
  | '\\' :: 'u' :: a :: b :: c :: d :: rest =>
    ((hexValue? [a, b, c, d]).bind (addUnit? found high)).bind fun (found, high) =>
      readText? found high rest
  | '\\' :: c :: rest =>
    if high.isSome then none
    else (unescape? c).bind fun c => readText? (c :: found) none rest
  | c :: rest =>
    if high.isSome then none
    else if c == '\x22' then some (String.ofList found.reverse, rest)
    else if c == '\\' || c.toNat < 0x20 then none
    else readText? (c :: found) none rest
  | [] => none

def readFraction : List Char → List Char × List Char
  | '.' :: rest =>
    let digits := rest.takeWhile Char.isDigit
    if digits.isEmpty then ([], '.' :: rest) else (digits, rest.drop digits.length)
  | chars => ([], chars)

def readPower (chars : List Char) : Option Int × List Char :=
  match chars with
  | [] => (none, [])
  | mark :: rest =>
    let (negative, tail) := Decimal.splitSign rest
    let digits := tail.takeWhile Char.isDigit
    if mark.toLower == 'e' && !digits.isEmpty then
      let size : Int := Decimal.digitsValue digits
      (some (if negative then -size else size), tail.drop digits.length)
    else (none, chars)

def readNumber? (chars : List Char) : Option (Json × List Char) :=
  let (negative, body) :=
    match chars with
    | '-' :: body => (true, body)
    | _ => (false, chars)
  let leading :=
    match body with
    | '0' :: _ => ['0']
    | _ => body.takeWhile Char.isDigit
  if leading.isEmpty then none
  else
    let (fraction, rest) := readFraction (body.drop leading.length)
    let (power, rest) := readPower rest
    let digits := Decimal.digitsValue (leading ++ fraction)
    if fraction.isEmpty && power.isNone then
      some (.whole (if negative then -(digits : Int) else digits), rest)
    else
      some (.decimal (.ofDecimal negative digits (power.getD 0 - fraction.length)), rest)

def read? (chars : List Char) : Option (Token × List Char) :=
  match chars with
  | [] => none
  | c :: rest =>
    match ofMark? c with
    | some mark => some (mark, rest)
    | none =>
      if c == '\x22' then
        (readText? [] none rest).map fun (value, rest) => (scalar (.text value), rest)
      else ((readWord? chars).or (readNumber? chars)).map fun (value, rest) => (scalar value, rest)

def isSpace (c : Char) : Bool :=
  c == ' ' || c == '\t' || c == '\n' || c == '\r'

def readAll? (found : List Token) : (fuel : Nat) → List Char → Option (List Token)
  | 0, _ => none
  | fuel + 1, chars =>
    match chars with
    | [] => some found.reverse
    | c :: rest =>
      if isSpace c then readAll? found fuel rest
      else (read? chars).bind fun (token, rest) => readAll? (token :: found) fuel rest

def ofText? (chars : List Char) : Option (List Token) :=
  readAll? [] (chars.length + 1) chars

end Token

inductive Container where
  | array (items : List Json)
  | member (members : List (String × Json)) (key : String)

inductive Progress where
  /-- A value is due, or the end of an array if `mayClose` is set. -/
  | value (stack : List Container) (mayClose : Bool)
  | key (members : List (String × Json)) (stack : List Container) (mayClose : Bool)
  | colon (key : String) (members : List (String × Json)) (stack : List Container)
  | after (value : Json) (stack : List Container)

def Progress.next? : Progress → Token → Option Progress
  | value stack _, .scalar json => some (after json stack)
  | value stack _, .openArray => some (value (.array [] :: stack) true)
  | value stack _, .openObject => some (key [] stack true)
  | value (_ :: stack) true, .closeArray => some (after (.array []) stack)
  | key members stack _, .scalar (.text name) => some (colon name members stack)
  | key _ stack true, .closeObject => some (after (.object []) stack)
  | colon name members stack, .colon => some (value (.member members name :: stack) false)
  | after json (.array items :: stack), .comma =>
    some (value (.array (json :: items) :: stack) false)
  | after json (.array items :: stack), .closeArray =>
    some (after (.array (json :: items).reverse) stack)
  | after json (.member members name :: stack), .comma =>
    some (key ((name, json) :: members) stack false)
  | after json (.member members name :: stack), .closeObject =>
    some (after (.object ((name, json) :: members).reverse) stack)
  | _, _ => none

def Progress.result? : Progress → Option Json
  | after json [] => some json
  | _ => none

def ofText (text : List Char) : Option Json :=
  ((Token.ofText? text).bind fun tokens => tokens.foldlM Progress.next? (.value [] false)).bind
    Progress.result?

end ArgHints.Json
