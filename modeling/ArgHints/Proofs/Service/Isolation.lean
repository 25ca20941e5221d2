import ArgHints.Proofs.Service.Handling

namespace ArgHints.Service

open Interpreter (Command Session Unreadable World)

/-- What a request shows of a buffer: the answer, the starts of the interpreter and the memo that is
kept afterwards. -/
structure View where
  answer : Except Unreadable Answer
  commands : List Command
  memo : Option Memo

def Handled.view (handled : Handled) (id : String) : View :=
  ⟨handled.answer, handled.commands, handled.service.buffers.get? id⟩

structure Alike (id : String) (first second : Service) : Prop where
  capacity : first.capacity = second.capacity
  memo : first.buffers.get? id = second.buffers.get? id

namespace Alike

variable {id : String} {first second : Service}

theorem memo_useBuffer (alike : Alike id first second) :
    (first.useBuffer (some id)).1 = (second.useBuffer (some id)).1 := by
  rw [Service.memo_useBuffer, Service.memo_useBuffer, alike.memo]

theorem view_handle (alike : Alike id first second) (pos : 0 < first.capacity) (world : World)
    {request : Request} (named : request.buffer? = some id) :
    (first.handle world request).view id = (second.handle world request).view id := by
  obtain ⟨sought, asked, same⟩ | ⟨other, -, names, same⟩ | ⟨answer, same⟩ := handle_cases request
  · have sought_id : sought.bufferId = some id := (buffer?_of_hintRequest? asked).symm.trans named
    rw [same, same, Handled.view, Handled.view]
    cases sound : sought.snapshot with
    | error refusal =>
        rw [hint_of_error world first sound, hint_of_error world second sound, alike.memo]
    | ok snapshot =>
        rw [answer_hint world first sound, answer_hint world second sound,
          commands_hint world first sound, commands_hint world second sound,
          service_hint world first sound, service_hint world second sound, sought_id,
          get?_update_self first id _ pos, get?_update_self second id _ (alike.capacity ▸ pos),
          alike.memo_useBuffer]
  · obtain rfl : other = id := Option.some.inj (names.symm.trans named)
    -- All that forgetting looks at is whether the buffer is kept.
    have kept : other ∈ first.buffers.keys ↔ other ∈ second.buffers.keys := by
      rw [← Recent.isSome_get?_iff, ← Recent.isSome_get?_iff, alike.memo]
    rw [same, same, Handled.view, Handled.view]
    simp only [answer_forget, commands_forget, service_forget, Recent.get?_erase_self, kept]
  · rw [same, same, Handled.view, Handled.view, alike.memo]

theorem handle (alike : Alike id first second) (pos : 0 < first.capacity) (world : World)
    {request : Request} (named : request.buffer? = some id) :
    Alike id (first.handle world request).service (second.handle world request).service where
  capacity := by rw [capacity_handle, capacity_handle, alike.capacity]
  memo := congrArg View.memo (alike.view_handle pos world named)

end Alike

theorem get?_handle_of_other (world : World) (service : Service) {request : Request} {id : String}
    (other : request.buffer? ≠ some id)
    (stays : .bufferDropped id ∉ (service.handle world request).events) :
    (service.handle world request).service.buffers.get? id = service.buffers.get? id := by
  obtain ⟨sought, snapshot, names, dropped, after⟩ | ⟨forgotten, names, after⟩ | after :=
    service_handle_cases world service request
  · rw [after]
    cases used : sought.bufferId with
    | none => rfl
    | some next =>
        have ne : id ≠ next := by
          rintro rfl
          exact other (names.trans used)
        rw [used] at dropped
        exact get?_update_of_ne service next _ ne fun gone =>
          stays (dropped (List.mem_map_of_mem gone))
  · have ne : id ≠ forgotten := by
      rintro rfl
      exact other names
    rw [after]
    exact Recent.get?_erase_of_ne _ _ ne
  · rw [after]

def views (id : String) (steps : List (Visit × Handled)) : List View :=
  (steps.filter fun step => step.1.request.buffer? = some id).map fun step => step.2.view id

theorem Alike.views_serve {id : String} {first second : Service} (alike : Alike id first second)
    (pos : 0 < first.capacity) (visits : List Visit)
    (kept : ∀ step ∈ first.serve visits, .bufferDropped id ∉ step.2.events) :
    views id (first.serve visits) =
      (second.serve (visits.filter fun visit => visit.request.buffer? = some id)).map
        fun step => step.2.view id := by
  induction visits generalizing first second with
  | nil => rfl
  | cons visit later ih =>
      have kept' := fun step member => kept step (List.mem_cons_of_mem _ member)
      have pos' : 0 < (first.handle visit.world visit.request).service.capacity := by
        rwa [capacity_handle]
      by_cases named : visit.request.buffer? = some id
      · have rest := ih (alike.handle pos visit.world named) pos' kept'
        rw [serve, views, List.filter_cons_of_pos (by simpa using named),
          List.filter_cons_of_pos (by simpa using named), serve, List.map_cons, List.map_cons,
          alike.view_handle pos visit.world named]
        exact congrArg _ rest
      · have stays := kept _ List.mem_cons_self
        have alike' : Alike id (first.handle visit.world visit.request).service second :=
          { capacity := (capacity_handle visit.world first visit.request).trans alike.capacity
            memo := (get?_handle_of_other visit.world first named stays).trans alike.memo }
        have rest := ih alike' pos' kept'
        rw [serve, views, List.filter_cons_of_neg (by simpa using named),
          List.filter_cons_of_neg (by simpa using named)]
        exact rest

/-- For a buffer that is never pushed out, all that the requests naming it show, the answers, the
starts of the interpreter and the memo, is as if there had been no other requests. -/
theorem views_serve_of_kept (capacity : Nat) (visits : List Visit) (id : String)
    (pos : 0 < capacity)
    (kept : ∀ step ∈ (Service.mk capacity .empty).serve visits,
      .bufferDropped id ∉ step.2.events) :
    views id ((Service.mk capacity .empty).serve visits) =
      ((Service.mk capacity .empty).serve
          (visits.filter fun visit => visit.request.buffer? = some id)).map
        fun step => step.2.view id :=
  Alike.views_serve ⟨rfl, rfl⟩ pos visits kept

theorem views_of_stale_memo :
    let before : World := ⟨fun _ => some "Rscript", fun _ => .exited 0 "function (x) " ""⟩
    let after : World := ⟨fun _ => some "Rscript", fun _ => .exited 0 "function (y) " ""⟩
    let visits : List Visit := [
      ⟨before, .forHint "a" "f(1" 1⟩, ⟨after, .forHint "b" "f(1" 1⟩, ⟨after, .forHint "a" "f(1" 1⟩,
      ⟨after, .forHint "c" "g" 0⟩, ⟨after, ⟨"DELETE", "/buffers/a", .absent⟩⟩,
      ⟨after, .forHint "a" "f(1" 1⟩]
    let steps := (Service.mk 2 .empty).serve visits
    0 < 2 ∧ (∀ step ∈ steps, .bufferDropped "a" ∉ step.2.events) ∧
      views "a" steps = ((Service.mk 2 .empty).serve
          (visits.filter fun visit => visit.request.buffer? = some "a")).map
        (fun step => step.2.view "a") ∧
      (views "a" steps).map (·.answer) =
        [.ok (.hint (some "x")), .ok (.hint (some "x")), .ok .forgotten,
          .ok (.hint (some "y"))] := by
  intro before after visits steps
  have kept : ∀ step ∈ steps, .bufferDropped "a" ∉ step.2.events := by decide +kernel
  exact ⟨by decide, kept, views_serve_of_kept 2 visits "a" (by decide) kept, by decide +kernel⟩

end ArgHints.Service
