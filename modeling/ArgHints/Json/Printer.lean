import ArgHints.Json
import ArgHints.Text

namespace ArgHints.Json

def escaped (c : Char) : List Char :=
  if c == '\x22' || c == '\\' then ['\\', c]
  else if c.toNat < 0x20 then '\\' :: 'u' :: Text.hexDigits 4 c.toNat
  else [c]

def renderText (text : String) : String :=
  String.ofList ('\x22' :: text.toList.flatMap escaped ++ ['\x22'])

def renderDecimal : Decimal.Binary64 → String
  | .nan => "NaN"
  | .infinite negative => if negative then "-Infinity" else "Infinity"
  | value => value.text

mutual

def renderOnto (found : List String) : Json → List String
  | null => "null" :: found
  | bool value => (if value then "true" else "false") :: found
  | whole value => toString value :: found
  | decimal value => renderDecimal value :: found
  | text value => renderText value :: found
  | array items => "]" :: renderItemsOnto ("[" :: found) items
  | object members => "\x7d" :: renderMembersOnto ("\x7b" :: found) members

def renderItemsOnto (found : List String) : List Json → List String
  | [] => found
  | [item] => renderOnto found item
  | item :: next :: rest => renderItemsOnto ("," :: renderOnto found item) (next :: rest)

def renderMembersOnto (found : List String) : List (String × Json) → List String
  | [] => found
  | [(key, value)] => renderOnto (":" :: renderText key :: found) value
  | (key, value) :: next :: rest =>
    renderMembersOnto ("," :: renderOnto (":" :: renderText key :: found) value) (next :: rest)

end

def render (json : Json) : String :=
  String.join (renderOnto [] json).reverse

end ArgHints.Json
