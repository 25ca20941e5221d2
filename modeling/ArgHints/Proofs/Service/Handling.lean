import ArgHints.Proofs.Memo
import ArgHints.Proofs.Service.Recent
import ArgHints.Service.Visit

/-!
# What a request does

A request either searches for a hint, forgets a buffer, or has nothing to do with the buffers
(`handle_cases`). A search uses the buffer that the request names and may change its memo
(`service_hint`), forgetting takes the buffer away (`service_forget`), and nothing else is changed
(`service_handle_cases`).
-/

namespace ArgHints.Service

open Interpreter (Command Session Unreadable World)

/-! ## Bodies -/

theorem Checked.apply_eq_sound {α β : Type} {function : Checked (α → β)} {argument : Checked α}
    {result : β} (sound : function.apply argument = .sound result) :
    ∃ f value, function = .sound f ∧ argument = .sound value ∧ f value = result := by
  cases function with
  | faulty faults => cases argument <;> cases sound
  | sound f =>
      cases argument with
      | faulty faults => cases sound
      | sound value =>
          cases sound
          exact ⟨f, value, rfl, rfl, rfl⟩

theorem bufferId_of_hintRequest {members : List (String × Json)} {request : HintRequest}
    (sound : hintRequest members = .sound request) :
    Checked.field members .bufferId (some none) (optional text) = .sound request.bufferId := by
  obtain ⟨_, _, four, -, rfl⟩ := Checked.apply_eq_sound sound
  obtain ⟨_, _, three, id, rfl⟩ := Checked.apply_eq_sound four
  obtain ⟨_, _, two, -, rfl⟩ := Checked.apply_eq_sound three
  obtain ⟨_, _, one, -, rfl⟩ := Checked.apply_eq_sound two
  cases one
  exact id

/-! ## Using a buffer -/

def update (service : Service) (id : Option String) (change : Memo → Memo) : Service :=
  (service.useBuffer id).2.2.keep id (change (service.useBuffer id).1)

section

variable (service : Service) (id : String) (change : Memo → Memo)

theorem memo_useBuffer :
    (service.useBuffer (some id)).1 = (service.buffers.get? id).getD .empty := rfl

theorem update_self (id : Option String) {change : Memo → Memo}
    (same : change (service.useBuffer id).1 = (service.useBuffer id).1) :
    service.update id change = (service.useBuffer id).2.2 := by
  cases id with
  | none => rfl
  | some id =>
      rw [update, same, keep]
      exact congrArg (Service.mk service.capacity) (service.buffers.replace_use_self _ id .empty)

theorem capacity_update (id : Option String) :
    (service.update id change).capacity = service.capacity := by
  cases id <;> rfl

theorem buffers_update : (service.update (some id) change).buffers =
    (service.buffers.use service.capacity id .empty).2.2.replace id
      (change (service.useBuffer (some id)).1) := rfl

theorem keys_update : (service.update (some id) change).buffers.keys =
    (service.buffers.use service.capacity id .empty).2.2.keys := by
  rw [buffers_update, Recent.keys_replace]

theorem get?_update_self (pos : 0 < service.capacity) :
    (service.update (some id) change).buffers.get? id =
      some (change (service.useBuffer (some id)).1) := by
  rw [buffers_update, Recent.get?_replace_self, Recent.get?_use_self _ _ _ _ pos, Option.map_some]

theorem get?_update_of_ne {other : String} (ne : other ≠ id)
    (stays : other ∉ (service.buffers.use service.capacity id .empty).2.1) :
    (service.update (some id) change).buffers.get? other = service.buffers.get? other := by
  rw [buffers_update, Recent.get?_replace_of_ne _ _ _ ne,
    Recent.get?_use_of_notMem _ _ _ _ ne stays]

theorem every_update {P : Memo → Prop} (all : service.buffers.Every P) (fresh : P .empty)
    (keeps : ∀ memo, P memo → P (change memo)) (id : Option String) :
    (service.update id change).buffers.Every P := by
  cases id with
  | none => exact all
  | some id =>
      rw [buffers_update]
      exact (all.use service.capacity id fresh).replace id
        (keeps _ (all.value_use service.capacity id fresh))

/-! ## Forgetting a buffer -/

theorem answer_forget : (service.forget id).answer =
    .ok (if id ∈ service.buffers.keys then .forgotten else .refused (.unknownBuffer id)) := by
  rw [forget]
  by_cases kept : id ∈ service.buffers.keys
  · rw [if_pos kept, if_pos ((Recent.isSome_get?_iff _ _).mpr kept)]
  · rw [if_neg kept, if_neg fun found => kept ((Recent.isSome_get?_iff _ _).mp found)]

theorem commands_forget : (service.forget id).commands = [] := by
  rw [forget]
  split <;> rfl

theorem service_forget : (service.forget id).service =
    { service with buffers := service.buffers.erase id } := by
  rw [forget]
  split
  case isTrue kept => rfl
  case isFalse absent =>
    have others : service.buffers.entries.filter (fun entry => entry.1 != id) =
        service.buffers.entries := by
      rw [List.filter_eq_self]
      intro entry member
      rw [bne_iff_ne]
      rintro rfl
      exact absent ((Recent.isSome_get?_iff _ _).mpr (List.mem_map_of_mem member))
    rw [Recent.erase, others]

end

/-! ## Searching for a hint -/

namespace HintRequest

def search (world : World) (request : HintRequest) (snapshot : Snapshot) (memo : Memo) :
    Run Unreadable Session (Option String × Memo) :=
  (request.config.provide snapshot memo none).run (Session.responder request.config world) {}

def memoAfter (world : World) (request : HintRequest) (snapshot : Snapshot) (memo : Memo) : Memo :=
  (request.search world snapshot memo).memoLeft memo

theorem commands_search (world : World) (request : HintRequest) (snapshot : Snapshot)
    (memo : Memo) :
    (request.search world snapshot memo).state.commands =
      (request.search world snapshot memo).asked.map fun name =>
        ⟨Interpreter.executable request.config world, name, request.config.timeout⟩ :=
  Session.commands_run_fresh request.config world _

end HintRequest

section

variable (world : World) (service : Service) {request : HintRequest}

theorem hint_of_error {refusal : Refusal} (refused : request.snapshot = .error refusal) :
    service.hint world request = { answer := .ok (.refused refusal), service } := by
  rw [hint, refused]

variable {snapshot : Snapshot} (sound : request.snapshot = .ok snapshot)

include sound

theorem answer_hint : (service.hint world request).answer =
    ((request.search world snapshot (service.useBuffer request.bufferId).1).outcome.map
      Prod.fst).map .hint := by
  simp only [hint, sound, HintRequest.search]
  split
  case h_1 outcome => rw [outcome]; rfl
  case h_2 outcome => rw [outcome]; rfl

theorem commands_hint : (service.hint world request).commands =
    (request.search world snapshot (service.useBuffer request.bufferId).1).state.commands := by
  simp only [hint, sound, HintRequest.search]
  split <;> rfl

theorem dropped_subset_events_hint :
    (service.useBuffer request.bufferId).2.1 ⊆ (service.hint world request).events := by
  simp only [hint, sound]
  split
  · simp
  · simp

theorem service_hint : (service.hint world request).service =
    service.update request.bufferId (request.memoAfter world snapshot) := by
  cases outcome :
      (request.search world snapshot (service.useBuffer request.bufferId).1).outcome with
  | error failure =>
      have same : request.memoAfter world snapshot (service.useBuffer request.bufferId).1 =
          (service.useBuffer request.bufferId).1 := by
        simp only [HintRequest.memoAfter, Run.memoLeft, outcome]
      rw [update_self _ _ same]
      simp only [hint, sound]
      rw [HintRequest.search] at outcome
      rw [outcome]
  | ok found =>
      simp only [hint, sound, update, HintRequest.memoAfter, Run.memoLeft, outcome]
      rw [HintRequest.search] at outcome
      rw [outcome]

end

/-! ## Any request -/

theorem withBody_cases {α : Type} (body : Body) (read : List (String × Json) → Checked α) :
    (∃ members value, body.members = .sound members ∧ read members = .sound value ∧
      ∀ service answer, withBody service body read answer = answer value) ∨
    ∃ faults, ∀ service answer,
      withBody service body read answer = { answer := .ok (.invalid faults), service } := by
  cases members : body.members with
  | faulty faults => exact .inr ⟨faults, fun _ _ => by rw [withBody, members]⟩
  | sound members' =>
    cases value : read members' with
    | faulty faults => exact .inr ⟨faults, fun _ _ => by simp only [withBody, members, value]⟩
    | sound value' =>
        refine .inl ⟨members', value', rfl, value, fun _ _ => ?_⟩
        simp only [withBody, members, value]

theorem token_eq (place : Place) :
    ∃ answer : Answer, ∀ service, token service place = { answer := .ok answer, service } := by
  cases found : place.snapshot with
  | error refusal => exact ⟨.refused refusal, fun _ => by rw [token, found]⟩
  | ok snapshot => exact ⟨.token snapshot.token, fun _ => by rw [token, found]⟩

theorem handle_of_none {request : Request} (nowhere : request.endpoint? = none) :
    ∃ answer : Answer,
      ∀ world service, handle world service request = { answer := .ok answer, service } := by
  cases reached : Endpoint.ofPath? (decodePath request.path) with
  | none => exact ⟨.noEndpoint, fun _ _ => by rw [handle, reached]⟩
  | some endpoint =>
      have method : request.method ≠ endpoint.method := by
        simpa [Request.endpoint?, reached, Option.filter] using nowhere
      exact ⟨.wrongMethod, fun _ _ => by simp only [handle, reached, if_pos method]⟩

theorem handle_of_some {request : Request} {endpoint : Endpoint} :
    request.endpoint? = some endpoint → ∀ world service, handle world service request =
      match endpoint with
      | .health => { answer := .ok (.health (Interpreter.isActive .default world)), service }
      | .token => service.withBody request.body place service.token
      | .hint => service.withBody request.body hintRequest (service.hint world)
      | .buffer id => service.forget id := by
  intro here world service
  obtain ⟨reached, method⟩ := Option.filter_eq_some_iff.mp here
  have method' : ¬ request.method ≠ endpoint.method := not_not.mpr (beq_iff_eq.mp method)
  cases endpoint <;> simp only [handle, reached, if_neg method']

theorem hintRequest?_eq_some_iff {request : Request} {sought : HintRequest} :
    request.hintRequest? = some sought ↔ ∃ members, request.endpoint? = some .hint ∧
      request.body.members = .sound members ∧ hintRequest members = .sound sought := by
  constructor
  · intro asked
    rw [Request.hintRequest?] at asked
    split at asked
    case h_2 => cases asked
    case h_1 members reached object =>
      split at asked
      case h_2 => cases asked
      case h_1 sound =>
        cases asked
        exact ⟨members, reached, object, sound⟩
  · rintro ⟨members, reached, object, sound⟩
    simp only [Request.hintRequest?, reached, object, sound]

theorem buffer?_of_hintRequest? {request : Request} {sought : HintRequest}
    (asked : request.hintRequest? = some sought) : request.buffer? = sought.bufferId := by
  obtain ⟨members, reached, object, sound⟩ := hintRequest?_eq_some_iff.mp asked
  simp only [Request.buffer?, reached, Body.buffer?, object, bufferId_of_hintRequest sound]

theorem handle_cases (request : Request) :
    (∃ sought : HintRequest, request.hintRequest? = some sought ∧
      ∀ world service, handle world service request = service.hint world sought) ∨
    (∃ id, request.endpoint? = some (.buffer id) ∧ request.buffer? = some id ∧
      ∀ world service, handle world service request = service.forget id) ∨
    ∃ answer : World → Answer, ∀ world service,
      handle world service request = { answer := .ok (answer world), service } := by
  cases here : request.endpoint? with
  | none =>
      obtain ⟨answer, same⟩ := handle_of_none here
      exact .inr (.inr ⟨fun _ => answer, same⟩)
  | some endpoint =>
    have same := handle_of_some here
    cases endpoint with
    | health => exact .inr (.inr ⟨_, same⟩)
    | token =>
        obtain ⟨_, place, -, -, read⟩ | ⟨faults, unread⟩ := withBody_cases request.body place
        · obtain ⟨answer, found⟩ := token_eq place
          exact .inr (.inr ⟨fun _ => answer, fun world service =>
            (same world service).trans ((read service _).trans (found service))⟩)
        · exact .inr (.inr ⟨fun _ => .invalid faults, fun world service =>
            (same world service).trans (unread service _)⟩)
    | buffer id => exact .inr (.inl ⟨id, rfl, by rw [Request.buffer?, here], same⟩)
    | hint =>
        obtain ⟨members, sought, object, sound, read⟩ | ⟨faults, unread⟩ :=
          withBody_cases request.body hintRequest
        · have asked := hintRequest?_eq_some_iff.mpr ⟨members, here, object, sound⟩
          exact .inl ⟨sought, asked, fun world service =>
            (same world service).trans (read service _)⟩
        · exact .inr (.inr ⟨fun _ => .invalid faults, fun world service =>
            (same world service).trans (unread service _)⟩)

theorem service_handle_cases (world : World) (service : Service) (request : Request) :
    (∃ (sought : HintRequest) (snapshot : Snapshot), request.buffer? = sought.bufferId ∧
      (service.useBuffer sought.bufferId).2.1 ⊆ (service.handle world request).events ∧
      (service.handle world request).service =
        service.update sought.bufferId (sought.memoAfter world snapshot)) ∨
    (∃ id, request.buffer? = some id ∧ (service.handle world request).service =
      { service with buffers := service.buffers.erase id }) ∨
    (service.handle world request).service = service := by
  obtain ⟨sought, asked, same⟩ | ⟨id, -, names, same⟩ | ⟨answer, same⟩ := handle_cases request
  · rw [same]
    cases sound : sought.snapshot with
    | error refusal => exact .inr (.inr (by rw [hint_of_error world service sound]))
    | ok snapshot =>
        have names := buffer?_of_hintRequest? asked
        exact .inl ⟨sought, snapshot, names, dropped_subset_events_hint world service sound,
          service_hint world service sound⟩
  · exact .inr (.inl ⟨id, names, by rw [same, service_forget]⟩)
  · exact .inr (.inr (by rw [same]))

theorem capacity_handle (world : World) (service : Service) (request : Request) :
    (service.handle world request).service.capacity = service.capacity := by
  obtain ⟨sought, snapshot, -, -, after⟩ | ⟨id, -, after⟩ | after :=
    service_handle_cases world service request
  · rw [after, capacity_update]
  · rw [after]
  · rw [after]

/-! ## Runs -/

theorem serve_cases {Invariant : Service → Prop} {service : Service} {visits : List Visit}
    (initial : Invariant service)
    (next : ∀ visit ∈ visits, ∀ service, Invariant service →
      Invariant (service.handle visit.world visit.request).service) :
    ∀ step ∈ service.serve visits, step.1 ∈ visits ∧ ∃ before, Invariant before ∧
      step.2 = before.handle step.1.world step.1.request := by
  induction visits generalizing service with
  | nil =>
      intro step member
      cases member
  | cons visit later ih =>
      intro step member
      rcases List.mem_cons.mp member with rfl | member
      · exact ⟨List.mem_cons_self, service, initial, rfl⟩
      · have kept := next visit List.mem_cons_self service initial
        obtain ⟨among, before⟩ :=
          ih kept (fun visit among => next visit (.tail _ among)) step member
        exact ⟨List.mem_cons_of_mem _ among, before⟩

end ArgHints.Service
