import ArgHints.Text.Unicode

namespace ArgHints.Text

def isNameChar (c : Char) : Bool :=
  isAlphanumeric c || c == '.' || c == '_' || c == '+' || c == ':' || c == '-'

def clamp (text : List Char) (cursor : Int) : Nat :=
  min cursor.toNat text.length

structure Span where
  start : Nat
  stop : Nat
  deriving DecidableEq, Repr

def Span.slice (span : Span) (text : List Char) : List Char :=
  (text.drop span.start).take (span.stop - span.start)

def nameSpan (text : List Char) (offset : Nat) : Span where
  start := offset - ((text.take offset).reverse.takeWhile isNameChar).length
  stop := offset + ((text.drop offset).takeWhile isNameChar).length

def nameAt (text : List Char) (cursor : Int) : List Char :=
  (nameSpan text (clamp text cursor)).slice text

def isBlank (c : Char) : Bool :=
  let n := c.toNat
  (0x09 ≤ n && n ≤ 0x0d) || (0x1c ≤ n && n ≤ 0x20) || n == 0x85 || n == 0xa0 || n == 0x1680 ||
    (0x2000 ≤ n && n ≤ 0x200a) || n == 0x2028 || n == 0x2029 || n == 0x202f || n == 0x205f ||
    n == 0x3000

def trimEnd (text : List Char) : List Char :=
  (text.reverse.dropWhile isBlank).reverse

def trim (text : List Char) : List Char :=
  trimEnd (text.dropWhile isBlank)

/-- The maximal runs of characters that are not blank. `word` holds the run being read, last
character first, and `found` the runs before it, last one first. -/
def wordsOnto (found : List (List Char)) (word : List Char) : List Char → List (List Char)
  | [] => (if word.isEmpty then found else word.reverse :: found).reverse
  | c :: rest =>
    if isBlank c then
      wordsOnto (if word.isEmpty then found else word.reverse :: found) [] rest
    else
      wordsOnto found (c :: word) rest

def words (text : List Char) : List (List Char) :=
  wordsOnto [] [] text

def collapse (text : List Char) : List Char :=
  [' '].intercalate (words text)

def hexDigits (width n : Nat) : List Char :=
  (List.range width).reverse.map fun place => (n >>> (4 * place) % 16).digitChar

def quotedChar (delimiter c : Char) : List Char :=
  if c == delimiter || c == '\\' then ['\\', c]
  else if c == '\n' then ['\\', 'n']
  else if c == '\r' then ['\\', 'r']
  else if c == '\t' then ['\\', 't']
  else if isPrintable c then [c]
  else if c.toNat < 0x100 then '\\' :: 'x' :: hexDigits 2 c.toNat
  else if c.toNat < 0x10000 then '\\' :: 'u' :: hexDigits 4 c.toNat
  else '\\' :: 'U' :: hexDigits 8 c.toNat

def delimiterFor (text : List Char) : Char :=
  if text.contains '\x27' && !text.contains '\x22' then '\x22' else '\x27'

def quoted (text : List Char) : List Char :=
  let delimiter := delimiterFor text
  delimiter :: text.flatMap (quotedChar delimiter) ++ [delimiter]

def quoted? : Option String → String
  | none => "None"
  | some text => String.ofList (quoted text.toList)

end ArgHints.Text
