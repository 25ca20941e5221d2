import ArgHints.Proofs.Service.Handling

namespace ArgHints.Service

open Interpreter (Command Session World)

def Faithful (world : World) (service : Service) : Prop :=
  service.buffers.Every (Memo.Agrees world.documentation)

variable {world : World} {service : Service}

theorem HintRequest.search_matches (request : HintRequest) (snapshot : Snapshot) {memo : Memo}
    (agrees : memo.Agrees world.documentation) :
    (request.search world snapshot memo).Matches world.documentation
      (request.search world snapshot .empty) :=
  Config.provide_matches (Session.outcome_lookup request.config world) agrees _ snapshot none {}

theorem HintRequest.memoAfter_agrees (request : HintRequest) (snapshot : Snapshot) (memo : Memo)
    (agrees : memo.Agrees world.documentation) :
    (request.memoAfter world snapshot memo).Agrees world.documentation :=
  (request.search_matches snapshot agrees).agrees_memoLeft agrees

namespace Faithful

theorem of_empty (capacity : Nat) : Faithful world ⟨capacity, .empty⟩ :=
  Recent.every_empty

variable (faithful : Faithful world service)

include faithful

theorem memo_useBuffer (id : Option String) :
    (service.useBuffer id).1.Agrees world.documentation := by
  cases id with
  | none => exact Memo.agrees_empty
  | some id => exact faithful.value_use service.capacity id Memo.agrees_empty

theorem handle (request : Request) : Faithful world (service.handle world request).service := by
  obtain ⟨sought, snapshot, -, -, after⟩ | ⟨id, -, after⟩ | after :=
    service_handle_cases world service request
  · rw [after]
    exact every_update service _ faithful Memo.agrees_empty (sought.memoAfter_agrees snapshot)
      sought.bufferId
  · rw [after]
    exact faithful.erase id
  · rw [after]
    exact faithful

theorem hint_eq (sought : HintRequest) (capacity : Nat) :
    (service.hint world sought).answer = (hint world ⟨capacity, .empty⟩ sought).answer ∧
      (service.hint world sought).commands.Sublist
        (hint world ⟨capacity, .empty⟩ sought).commands := by
  cases sound : sought.snapshot with
  | error refusal =>
      rw [hint_of_error world service sound, hint_of_error world _ sound]
      exact ⟨rfl, List.Sublist.refl _⟩
  | ok snapshot =>
      have plain : ((Service.mk capacity .empty).useBuffer sought.bufferId).1 = .empty := by
        cases sought.bufferId <;> rfl
      have found := sought.search_matches snapshot (faithful.memo_useBuffer sought.bufferId)
      rw [answer_hint world service sound, answer_hint world _ sound,
        commands_hint world service sound, commands_hint world _ sound, plain, found.outcome,
        HintRequest.commands_search, HintRequest.commands_search]
      exact ⟨rfl, found.asked.map _⟩

end Faithful

/-- In a world that does not change, an answer depends on the request alone unless the request is to
forget a buffer, whatever requests came before it. They can only save starts of the interpreter. -/
theorem answer_independent_of_history (world : World) (capacity : Nat) (requests : List Request) :
    ∀ step ∈ (Service.mk capacity .empty).serve (requests.map (Visit.mk world)),
      (∀ id, step.1.request.endpoint? ≠ some (.buffer id)) →
      step.2.answer = ((Service.mk capacity .empty).handle world step.1.request).answer ∧
        step.2.commands.Sublist
          ((Service.mk capacity .empty).handle world step.1.request).commands := by
  intro step member notForget
  have next : ∀ visit ∈ requests.map (Visit.mk world), ∀ service, Faithful world service →
      Faithful world (service.handle visit.world visit.request).service := by
    intro visit among service faithful
    obtain ⟨request, -, rfl⟩ := List.mem_map.mp among
    exact faithful.handle request
  obtain ⟨among, before, faithful, led⟩ := serve_cases (Faithful.of_empty capacity) next step member
  obtain ⟨request, -, fixed⟩ := List.mem_map.mp among
  rw [led, ← fixed]
  rw [← fixed] at notForget
  obtain ⟨sought, -, same⟩ | ⟨id, forgets, -, -⟩ | ⟨answer, same⟩ := handle_cases request
  · rw [same, same]
    exact faithful.hint_eq sought capacity
  · exact absurd forgets (notForget id)
  · rw [same, same]
    exact ⟨rfl, List.Sublist.refl _⟩

theorem answer_from_memo :
    let world : World := ⟨fun _ => some "Rscript", fun _ => .exited 0 "function (x, y = 2) " ""⟩
    let request := Request.forHint "a" "f(x" 1
    let first := (Service.mk 1 .empty).handle world request
    let again := first.service.handle world request
    (∀ id, request.endpoint? ≠ some (.buffer id)) ∧
      again.answer = .ok (.hint (some "x, y = 2")) ∧ again.answer = first.answer ∧
      first.commands.map (·.name) = ["f"] ∧ again.commands = [] := by
  intro world request first again
  have reached : request.endpoint? = some .hint := by decide +kernel
  have notForget : ∀ id, request.endpoint? ≠ some (.buffer id) := by simp [reached]
  have member : (Visit.mk world request, again) ∈
      (Service.mk 1 .empty).serve ([request, request].map (Visit.mk world)) :=
    List.mem_cons_of_mem _ List.mem_cons_self
  obtain ⟨same, -⟩ := answer_independent_of_history world 1 [request, request] _ member notForget
  exact ⟨notForget, by decide +kernel, same, by decide +kernel, by decide +kernel⟩

end ArgHints.Service
