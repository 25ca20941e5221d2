import ArgHints.Decimal.Shortest

namespace ArgHints

inductive Json where
  | null
  | bool (value : Bool)
  | whole (value : Int)
  | decimal (value : Decimal.Binary64)
  | text (value : String)
  | array (items : List Json)
  | object (members : List (String × Json))

namespace Json

def member? (key : String) (members : List (String × Json)) : Option Json :=
  (members.reverse.find? fun member => member.1 == key).map (·.2)

def get? (key : String) : Json → Option Json
  | object members => member? key members
  | _ => none

def ofText? : Option String → Json
  | none => null
  | some value => text value

end Json

end ArgHints
