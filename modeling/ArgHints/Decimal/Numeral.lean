import ArgHints.Decimal.Binary64
import ArgHints.Text
import ArgHints.Text.Unicode

namespace ArgHints.Decimal

open ArgHints.Text

/-- Whether a character may stand around a typed number: any blank but the information separators
of ASCII. -/
def isPadding (c : Char) : Bool :=
  isBlank c && !(0x1c ≤ c.toNat && c.toNat ≤ 0x1f)

def trimPadding (text : List Char) : List Char :=
  ((text.dropWhile isPadding).reverse.dropWhile isPadding).reverse

def plainDigits (text : List Char) : List Char :=
  (trimPadding text).map fun c => ((digitValue? c).map Nat.digitChar).getD c

def splitSign : List Char → Bool × List Char
  | '-' :: rest => (true, rest)
  | '+' :: rest => (false, rest)
  | text => (false, text)

/-- A text without its underscores, each of which has to stand between two digits. `digit` says
whether a digit came before. -/
def dropUnderscores (digit : Bool) : List Char → Option (List Char)
  | [] => some []
  | '_' :: c :: rest =>
    if digit && c.isDigit then (dropUnderscores true rest).map (c :: ·) else none
  | c :: rest => if c == '_' then none else (dropUnderscores c.isDigit rest).map (c :: ·)

def digitsValue (digits : List Char) : Nat :=
  digits.foldl (fun n c => 10 * n + (c.toNat - 48)) 0

def maxDigits : Nat := 4300

def readWhole? (text : List Char) : Option Int :=
  let (negative, body) := splitSign (plainDigits text)
  (dropUnderscores false body).bind fun digits =>
    if digits.isEmpty || !digits.all Char.isDigit || maxDigits < digits.length then none
    else some (if negative then -(digitsValue digits : Int) else digitsValue digits)

def readExponent? : List Char → Option Int
  | [] => some 0
  | mark :: rest =>
    let (negative, digits) := splitSign rest
    if mark.toLower == 'e' && !digits.isEmpty && digits.all Char.isDigit then
      some (if negative then -(digitsValue digits : Int) else digitsValue digits)
    else none

def readUnsigned? (negative : Bool) (body : List Char) : Option Binary64 :=
  let whole := body.takeWhile Char.isDigit
  let rest := body.dropWhile Char.isDigit
  let (fraction, rest) :=
    match rest with
    | '.' :: rest => (rest.takeWhile Char.isDigit, rest.dropWhile Char.isDigit)
    | _ => ([], rest)
  if whole.isEmpty && fraction.isEmpty then none
  else
    (readExponent? rest).map fun exponent =>
      .ofDecimal negative (digitsValue (whole ++ fraction)) (exponent - fraction.length)

def readDecimal? (text : List Char) : Option Binary64 :=
  let (negative, body) := splitSign (plainDigits text)
  let word := String.ofList (body.map Char.toLower)
  if word == "nan" then some .nan
  else if word == "inf" || word == "infinity" then some (.infinite negative)
  else (dropUnderscores false body).bind (readUnsigned? negative)

end ArgHints.Decimal
