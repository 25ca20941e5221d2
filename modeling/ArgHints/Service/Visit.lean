import ArgHints.Service

namespace ArgHints.Service

open Interpreter (World)

structure Visit where
  world : World
  request : Request

def serve (service : Service) : List Visit → List (Visit × Handled)
  | [] => []
  | visit :: later =>
    let handled := service.handle visit.world visit.request
    (visit, handled) :: handled.service.serve later

inductive Reachable (capacity : Nat) : Service → Prop where
  | start : Reachable capacity ⟨capacity, .empty⟩
  | handle {service : Service} (world : World) (request : Request) :
      Reachable capacity service → Reachable capacity (service.handle world request).service

def Handled.status? (handled : Handled) : Option Nat :=
  match handled.answer with
  | .ok answer => some answer.status
  | .error _ => none

def Handled.IsRefused (handled : Handled) : Prop :=
  handled.status? ∈ [some 400, some 404, some 405, some 422]

def Request.forHint (id text : String) (cursor : Int) : Request where
  method := "POST"
  path := "/doc"
  body := .value (.object [
    ("text", .text text),
    ("cursor", .whole cursor),
    ("strategy", .text Strategy.cached.name),
    ("buffer_id", .text id)])

def Request.endpoint? (request : Request) : Option Endpoint :=
  (Endpoint.ofPath? (decodePath request.path)).filter fun endpoint =>
    request.method == endpoint.method

def Request.hintRequest? (request : Request) : Option HintRequest :=
  match request.endpoint?, request.body.members with
  | some .hint, .sound members =>
    match hintRequest members with
    | .sound sought => some sought
    | .faulty _ => none
  | _, _ => none

def Body.buffer? (body : Body) : Option String :=
  match body.members with
  | .faulty _ => none
  | .sound members =>
    match Checked.field members .bufferId (some none) (optional text) with
    | .faulty _ => none
    | .sound id => id

def Request.buffer? (request : Request) : Option String :=
  match request.endpoint? with
  | some (.buffer id) => some id
  | some .hint => request.body.buffer?
  | _ => none

end ArgHints.Service
