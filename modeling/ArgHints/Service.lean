import ArgHints.Interpreter
import ArgHints.Resolver
import ArgHints.Service.Answer
import ArgHints.Service.Path
import ArgHints.Service.Recent
import ArgHints.Text.Line

namespace ArgHints

structure Service where
  capacity : Nat := 256
  buffers : Service.Recent Memo := .empty

namespace Service

open Interpreter (Command Session Unreadable World)

structure Request where
  method : String
  path : String
  body : Body

structure Handled where
  answer : Except Unreadable Answer
  commands : List Command := []
  events : List Event := []
  service : Service

def Place.snapshot (place : Place) : Except Refusal Snapshot :=
  match place.cursor, place.line with
  | some cursor, _ =>
    if cursor > place.text.length then .error (.cursorOutside cursor place.text.length)
    else .ok (.ofCursor place.text cursor)
  | none, none => .error .noPosition
  | none, some line =>
    match Text.offsetAt place.text line place.column with
    | .ok offset => .ok (.ofCursor place.text offset)
    | .error _ => .error .noPosition

def HintRequest.config (request : HintRequest) : Config :=
  { Config.default with strategy := request.strategy, showName := request.showName }

def HintRequest.snapshot (request : HintRequest) : Except Refusal Snapshot :=
  -- The buffer is asked for before the place is looked at.
  if request.strategy = .cached ∧ request.bufferId.isNone then .error .noBuffer
  else request.place.snapshot

def useBuffer (service : Service) : Option String → Memo × List Event × Service
  | none => (.empty, [], service)
  | some id =>
    let (memo, dropped, buffers) := service.buffers.use service.capacity id .empty
    (memo, dropped.map .bufferDropped, { service with buffers })

def keep (service : Service) (id : Option String) (memo : Memo) : Service :=
  match id with
  | none => service
  | some id => { service with buffers := service.buffers.replace id memo }

def hint (world : World) (service : Service) (request : HintRequest) : Handled :=
  match request.snapshot with
  | .error refusal => { answer := .ok (.refused refusal), service }
  | .ok snapshot =>
    let config := request.config
    let (memo, dropped, service) := service.useBuffer request.bufferId
    let run := (config.provide snapshot memo none).run (Session.responder config world) {}
    match run.outcome with
    | .ok (hint, memo) =>
      { answer := .ok (.hint hint)
        commands := run.state.commands
        events := dropped ++ run.events ++ [.resolved snapshot.cursor hint]
        service := service.keep request.bufferId memo }
    | .error error =>
      -- The use of the buffer stays, with the memo it had before.
      { answer := .error error
        commands := run.state.commands
        events := dropped ++ run.events
        service }

def token (service : Service) (place : Place) : Handled :=
  match place.snapshot with
  | .error refusal => { answer := .ok (.refused refusal), service }
  | .ok snapshot => { answer := .ok (.token snapshot.token), service }

def forget (service : Service) (id : String) : Handled :=
  if (service.buffers.get? id).isSome then
    { answer := .ok .forgotten
      service := { service with buffers := service.buffers.erase id } }
  else { answer := .ok (.refused (.unknownBuffer id)), service }

def withBody {α : Type} (service : Service) (body : Body)
    (read : List (String × Json) → Checked α) (answer : α → Handled) : Handled :=
  match body.members with
  | .faulty faults => { answer := .ok (.invalid faults), service }
  | .sound members =>
    match read members with
    | .faulty faults => { answer := .ok (.invalid faults), service }
    | .sound value => answer value

def handle (world : World) (service : Service) (request : Request) : Handled :=
  match Endpoint.ofPath? (decodePath request.path) with
  | none => { answer := .ok .noEndpoint, service }
  | some endpoint =>
    if request.method ≠ endpoint.method then { answer := .ok .wrongMethod, service }
    else
      match endpoint with
      | .health => { answer := .ok (.health (Interpreter.isActive Config.default world)), service }
      | .token => service.withBody request.body place service.token
      | .hint => service.withBody request.body hintRequest (service.hint world)
      | .buffer id => service.forget id

end Service

end ArgHints
