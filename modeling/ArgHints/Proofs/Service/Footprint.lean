import ArgHints.Proofs.Service.Recency

namespace ArgHints.Service

open Interpreter (Session World)

theorem status_mem (refusal : Refusal) :
    some refusal.status ∈ [some 400, some 404, some 405, some 422] := by
  cases refusal <;> simp [Refusal.status]

theorem isRefused_of_error {request : HintRequest} {refusal : Refusal} (world : World)
    (service : Service) (refused : request.snapshot = .error refusal) :
    (service.hint world request).IsRefused := by
  rw [hint_of_error world service refused]
  exact status_mem refusal

theorem not_isRefused_of_ok {request : HintRequest} {snapshot : Snapshot} (world : World)
    (service : Service) (sound : request.snapshot = .ok snapshot) :
    ¬ (service.hint world request).IsRefused := by
  rw [Handled.IsRefused, Handled.status?, answer_hint world service sound]
  cases (request.search world snapshot (service.useBuffer request.bufferId).1).outcome with
  | error failure => simp [Except.map]
  | ok found => simp [Except.map, Answer.status]

theorem service_forget_of_isRefused {service : Service} {id : String}
    (refused : (service.forget id).IsRefused) : (service.forget id).service = service := by
  rw [forget] at refused ⊢
  split at refused
  case isTrue kept => simp [Handled.IsRefused, Handled.status?, Answer.status] at refused
  case isFalse absent => rw [if_neg absent]

theorem service_handle_of_isRefused {world : World} {service : Service} {request : Request}
    (refused : (service.handle world request).IsRefused) :
    (service.handle world request).service = service := by
  obtain ⟨sought, -, same⟩ | ⟨id, -, -, same⟩ | ⟨answer, same⟩ := handle_cases request
  · rw [same] at refused ⊢
    cases sound : sought.snapshot with
    | error refusal => rw [hint_of_error world service sound]
    | ok snapshot => exact absurd refused (not_isRefused_of_ok world service sound)
  · rw [same] at refused ⊢
    exact service_forget_of_isRefused refused
  · rw [same]

theorem service_handle_of_health (world : World) (service : Service) {request : Request}
    (health : request.endpoint? = some .health) :
    (service.handle world request).service = service := by
  rw [handle_of_some health]

theorem service_handle_of_token (world : World) (service : Service) {request : Request}
    (asked : request.endpoint? = some .token) :
    (service.handle world request).service = service := by
  rw [handle_of_some asked]
  obtain ⟨_, place, -, -, read⟩ | ⟨faults, unread⟩ := withBody_cases request.body place
  · obtain ⟨answer, found⟩ := token_eq place
    rw [read, found]
  · rw [unread]

theorem handle_of_hintRequest? (world : World) (service : Service) {request : Request}
    {sought : HintRequest} (asked : request.hintRequest? = some sought) :
    service.handle world request = service.hint world sought := by
  obtain ⟨members, reached, object, sound⟩ := hintRequest?_eq_some_iff.mp asked
  rw [handle_of_some reached]
  simp only [withBody, object, sound]

/-- Whether a request looks up the name at its cursor to remember the answer: a cached search that
asks. -/
structure HintRequest.LooksUp (world : World) (request : HintRequest) (snapshot : Snapshot)
    (memo : Memo) : Prop where
  cached : request.strategy = .cached
  asks : Hint.Asks (Interpreter.isActive request.config world) snapshot memo

namespace HintRequest

variable {world : World} {request : HintRequest} {snapshot : Snapshot} {memo : Memo}

theorem memoAfter_of_looksUp {doc : Option String} (looks : request.LooksUp world snapshot memo)
    (answered : world.documentation snapshot.token = .ok doc) :
    request.memoAfter world snapshot memo = memo.store snapshot.token doc := by
  rw [memoAfter, search]
  refine Config.memoLeft_provide_of_asks looks.cached looks.asks ?_
  rw [Session.outcome_lookup, answered]

theorem memoAfter_of_not (still : request.LooksUp world snapshot memo →
    ∀ doc, world.documentation snapshot.token ≠ .ok doc) :
    request.memoAfter world snapshot memo = memo := by
  rw [memoAfter, search]
  refine Config.memoLeft_provide_of_not fun cached asks doc answered => ?_
  rw [Session.outcome_lookup] at answered
  exact still ⟨cached, asks⟩ doc answered

end HintRequest

theorem keys_update_eq (service : Service) (id : String) (change : Memo → Memo)
    (pos : 0 < service.capacity) :
    (service.update (some id) change).buffers.keys =
      (service.buffers.keys.filter (· != id)).drop
        ((service.buffers.keys.filter (· != id)).length + 1 - service.capacity) ++ [id] := by
  rw [keys_update, Recent.keys_use, List.length_append, List.length_singleton,
    List.drop_append_of_le_length (by omega)]

/-- A request that is refused and one for the health or for a name change nothing. Any other request
for a hint that names a buffer puts it behind all others, drops from the front what is too many, and
leaves the memos of the others alone. Its own memo becomes the name at the cursor with the answer to
its lookup if a cached search has made one and got an answer, and stays as it was otherwise. -/
theorem handle_footprint (capacity : Nat) (pos : 0 < capacity) {service : Service}
    (reachable : Reachable capacity service) (world : World) (request : Request) :
    let handled := service.handle world request
    (handled.IsRefused ∨ request.endpoint? = some .health ∨ request.endpoint? = some .token →
      handled.service = service) ∧
    ∀ sought id, request.hintRequest? = some sought → sought.bufferId = some id →
      ¬ handled.IsRefused →
      let others := service.buffers.keys.filter (· != id)
      let memo := (service.buffers.get? id).getD .empty
      handled.service.buffers.keys = others.drop (others.length + 1 - capacity) ++ [id] ∧
      (∀ other ∈ handled.service.buffers.keys, other ≠ id →
        handled.service.buffers.get? other = service.buffers.get? other) ∧
      ∃ snapshot, sought.snapshot = .ok snapshot ∧
        (∀ doc, sought.LooksUp world snapshot memo → world.documentation snapshot.token = .ok doc →
          handled.service.buffers.get? id = some ⟨some ⟨snapshot.token, doc⟩⟩) ∧
        ((sought.LooksUp world snapshot memo →
            ∀ doc, world.documentation snapshot.token ≠ .ok doc) →
          handled.service.buffers.get? id = some memo) := by
  obtain ⟨deeds, rfl⟩ := reachable.eq_performAll
  have room : 0 < ((Service.mk capacity .empty).performAll deeds).capacity := by
    rwa [capacity_performAll]
  have distinct := nodup_keys capacity deeds
  refine ⟨?_, ?_⟩
  · rintro (refused | health | token)
    · exact service_handle_of_isRefused refused
    · exact service_handle_of_health world _ health
    · exact service_handle_of_token world _ token
  · intro sought id asked names accepted
    rw [handle_of_hintRequest? world _ asked] at accepted ⊢
    cases sound : sought.snapshot with
    | error refusal => exact absurd (isRefused_of_error world _ sound) accepted
    | ok snapshot =>
        rw [service_hint world _ sound, names]
        refine ⟨?_, ?_, snapshot, rfl, ?_, ?_⟩
        · rw [keys_update_eq _ _ _ room, capacity_performAll]
        · intro other kept ne
          exact @get?_perform_of_ne _ other (.use id (sought.memoAfter world snapshot))
            (Ne.symm ne) distinct kept
        · intro doc looks answered
          rw [get?_update_self _ _ _ room, memo_useBuffer,
            HintRequest.memoAfter_of_looksUp looks answered]
          rfl
        · intro still
          rw [get?_update_self _ _ _ room, memo_useBuffer, HintRequest.memoAfter_of_not still]

theorem footprint_of_another_name :
    let world : World := ⟨fun _ => some "Rscript", fun _ => .exited 0 "function (x) " ""⟩
    let asked := (Service.mk 2 .empty).handle world (.forHint "a" "f(" 1)
    let before := (asked.service.handle world (.forHint "b" "g(" 1)).service
    let handled := before.handle world (.forHint "a" "h(" 1)
    let refused := before.handle world (.forHint "a" "h(" 3)
    0 < 2 ∧ Reachable 2 before ∧
      (refused.IsRefused ∧ refused.service = before) ∧
      ¬ handled.IsRefused ∧ before.buffers.keys = ["a", "b"] ∧
      handled.service.buffers.keys = ["b", "a"] ∧
      handled.service.buffers.get? "b" = before.buffers.get? "b" ∧
      handled.service.buffers.get? "a" = some ⟨some ⟨"h", some "x"⟩⟩ := by
  intro world asked before handled refused
  have reachable : Reachable 2 before := .handle _ _ (.handle _ _ .start)
  have isRefused : refused.IsRefused := by
    rw [Handled.IsRefused]
    decide +kernel
  have accepted : ¬ handled.IsRefused := by
    rw [Handled.IsRefused]
    decide +kernel
  have sought : (Request.forHint "a" "h(" 1).hintRequest? =
      some ⟨⟨"h(".toList, some 1, none, 0⟩, .cached, some "a", false⟩ := by decide +kernel
  have order : before.buffers.keys = ["a", "b"] := by decide +kernel
  have unchanged := (handle_footprint 2 (by decide) reachable world (.forHint "a" "h(" 3)).1
  obtain ⟨keys, others, snapshot, sound, changes, -⟩ :=
    (handle_footprint 2 (by decide) reachable world (.forHint "a" "h(" 1)).2 _ "a" sought rfl
      accepted
  obtain rfl : Snapshot.ofCursor "h(".toList 1 = snapshot := Except.ok.inj sound
  have token : (Snapshot.ofCursor "h(".toList 1).token = "h" := by decide +kernel
  have held : before.buffers.get? "a" = some ⟨some ⟨"f", some "x"⟩⟩ := by decide +kernel
  have other : "b" ∈ handled.service.buffers.keys := by decide +kernel
  have changed := changes (some "x")
    ⟨rfl, rfl, by rw [token]; decide, by rw [token, held]; rintro entry ⟨⟩; decide⟩
    (by decide +kernel)
  rw [token] at changed
  rw [order] at keys
  exact ⟨by decide, reachable, ⟨isRefused, unchanged (.inl isRefused)⟩, accepted, order, keys,
    others "b" other (by decide), changed⟩

end ArgHints.Service
