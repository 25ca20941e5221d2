import ArgHints.Json
import ArgHints.Service.Payload

namespace ArgHints.Service

inductive Refusal where
  | noBuffer
  | cursorOutside (cursor : Int) (length : Nat)
  | noPosition
  | unknownBuffer (id : String)
  deriving DecidableEq, Repr

namespace Refusal

def status : Refusal → Nat
  | unknownBuffer _ => 404
  | _ => 400

def message : Refusal → String
  | noBuffer => "The cached strategy needs a buffer_id"
  | cursorOutside cursor length => s!"Cursor {cursor} outside 0..{length}"
  | noPosition => "Either cursor or line must be provided"
  | unknownBuffer id => s!"Unknown buffer {id}"

end Refusal

inductive Answer where
  | health (active : Bool)
  | token (name : String)
  | hint (text : Option String)
  | forgotten
  | refused (refusal : Refusal)
  | invalid (faults : List Fault)
  | noEndpoint
  | wrongMethod
  deriving DecidableEq, Repr

namespace Answer

def status : Answer → Nat
  | refused refusal => refusal.status
  | invalid _ => 422
  | noEndpoint => 404
  | wrongMethod => 405
  | _ => 200

def faultJson (fault : Fault) : Json :=
  .object [
    ("type", .text fault.defect.name),
    ("loc", .array (.text "body" :: fault.field.toList.map fun field => .text field.name))]

def detail (message : String) : Json :=
  .object [("detail", .text message)]

def body : Answer → Json
  | health active => .object [("status", .text "ok"), ("interpreter_active", .bool active)]
  | token name => .object [("token", .text name)]
  | hint text => .object [("doc", .ofText? text)]
  | forgotten => .object [("status", .text "ok")]
  | refused refusal => detail refusal.message
  | invalid faults => .array (faults.map faultJson)
  | noEndpoint => detail "Not Found"
  | wrongMethod => detail "Method Not Allowed"

end Answer

end ArgHints.Service
