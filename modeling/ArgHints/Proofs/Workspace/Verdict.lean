import ArgHints.Proofs.Workspace.Activation

namespace ArgHints.Workspace

variable {ε σ : Type} {workspace start : Workspace} {name : String} {resolver : Nat}
  {dialect : Option String} {resolvers : List (Served ε σ)} {provided : Served ε σ} {world : σ}

section

variable (found : resolvers[resolver]? = some provided)

include found

theorem answer_step_activate :
    (workspace.step resolvers world name (.activate resolver dialect)).answer =
      .ok (.activated
        (decide (dialect.getD (workspace.buffers name).dialect = provided.config.dialect))) := by
  rw [step_activate_of_some found, matched_activate]

theorem isActive_step_activate_iff :
    (workspace.step resolvers world name (.activate resolver dialect)).workspace.IsActive name ↔
      dialect.getD (workspace.buffers name).dialect = provided.config.dialect ∨
        workspace.IsActive name := by
  rw [step_activate_of_some found]
  by_cases matched : dialect.getD (workspace.buffers name).dialect = provided.config.dialect
  · simp only [isActive_activate matched, matched, true_or]
  · simp only [activate_of_foreign matched, matched, false_or]

end

theorem ActivatedFor.isActive_iff {bound : List Provider} {first : Option Nat}
    (activated : ActivatedFor name start bound first workspace) :
    workspace.IsActive name ↔ first.isSome := by
  rw [IsActive, activated.provider, activated.modeOn, Option.isSome_map, and_self]

theorem isActive_after_iff {turns : List (Turn σ)} (bare : (start.buffers name).state = none)
    (lt : ∀ other number, (start.buffers other).state = some number → number < start.fresh)
    (own : ∀ turn ∈ turns, turn.IsOwn)
    (keeps : ∀ turn ∈ turns, turn.name = name → turn.action.KeepsState) :
    (start.after resolvers turns).IsActive name ↔
      ∃ played ∈ start.play resolvers turns, (played.match? resolvers name).isSome := by
  have activated := (activatedFor_of_bare bare).run resolvers (owned_of_bare bare lt) own keeps
  rw [activated.isActive_iff, Option.none_or, List.isSome_findSome?, List.any_eq_true]

/-- Whatever was done before, the answer is whether the dialect is the right one. It says rightly
whether the buffer is active then unless the buffer was active already and the dialect is not the
right one. A buffer whose state was left to activations and providers is active if one of the
activations so far has matched. -/
theorem activated_iff_isActive (found : resolvers[resolver]? = some provided) (start : Workspace)
    (turns : List (Turn σ)) (world : σ) (name : String) (dialect : Option String) :
    let before := start.after resolvers turns
    let step := before.step resolvers world name (.activate resolver dialect)
    let matched := dialect.getD (before.buffers name).dialect = provided.config.dialect
    step.answer = .ok (.activated (decide matched)) ∧
      (step.workspace.IsActive name ↔ matched ∨ before.IsActive name) ∧
      ((step.answer = .ok (.activated true) ↔ step.workspace.IsActive name) ↔
        (before.IsActive name → matched)) ∧
      ((start.buffers name).state = none →
        (∀ other number, (start.buffers other).state = some number → number < start.fresh) →
        (∀ turn ∈ turns, turn.IsOwn) →
        (∀ turn ∈ turns, turn.name = name → turn.action.KeepsState) →
        (before.IsActive name ↔
          ∃ played ∈ start.play resolvers turns, (played.match? resolvers name).isSome)) := by
  intro before step matched
  have answer : step.answer = .ok (.activated (decide matched)) := answer_step_activate found
  have active : step.workspace.IsActive name ↔ matched ∨ before.IsActive name :=
    isActive_step_activate_iff found
  refine ⟨answer, active, ?_, isActive_after_iff⟩
  rw [answer, active, Except.ok.injEq, Answer.activated.injEq, decide_eq_true_eq]
  constructor
  · intro truthful wasActive
    exact truthful.mpr (.inr wasActive)
  · intro again
    exact ⟨.inl, fun either => either.elim id again⟩

theorem activated_of_changed_dialect :
    let responder : Responder Unit Unit := ⟨fun _ => true, fun _ _ => ⟨[], .ok none, ()⟩⟩
    let provided : Served Unit Unit := ⟨Config.default, responder⟩
    let start := ofBuffers fun _ => { text := "f(x)".toList }
    let turns : List (Turn Unit) := [
      ⟨(), "a", .activate 0 none⟩, ⟨(), "b", .activate 0 (some "S")⟩, ⟨(), "a", .provide 0⟩,
      ⟨(), "a", .edit { dialect := some "S" }⟩]
    let before := start.after [provided] turns
    let step := before.step [provided] () "a" (.activate 0 none)
    [provided][0]? = some provided ∧ (start.buffers "a").state = none ∧
      (∀ other number, (start.buffers other).state = some number → number < start.fresh) ∧
      (∀ turn ∈ turns, turn.IsOwn) ∧
      (∀ turn ∈ turns, turn.name = "a" → turn.action.KeepsState) ∧
      before.IsActive "a" ∧ step.answer = .ok (.activated false) ∧ step.workspace.IsActive "a" ∧
      ¬ (step.answer = .ok (.activated true) ↔ step.workspace.IsActive "a") := by
  intro responder provided start turns before step
  have found : [provided][0]? = some provided := rfl
  have bare : (start.buffers "a").state = none := rfl
  have lt : ∀ other number, (start.buffers other).state = some number →
      number < start.fresh := by
    rintro other number ⟨⟩
  have own : ∀ turn ∈ turns, turn.IsOwn := by simp [turns, Turn.IsOwn]
  have keeps : ∀ turn ∈ turns, turn.name = "a" → turn.action.KeepsState := by
    simp [turns, Action.KeepsState]
  obtain ⟨answer, active, truthful, history⟩ :=
    activated_iff_isActive found start turns () "a" none
  have wasActive := (history bare lt own keeps).mpr (by decide +kernel)
  have foreign : (before.buffers "a").dialect ≠ provided.config.dialect := by decide +kernel
  have denied : step.answer = .ok (.activated false) := by
    rw [show step.answer = _ from answer, Except.ok.injEq, Answer.activated.injEq]
    exact decide_eq_false foreign
  exact ⟨found, bare, lt, own, keeps, wasActive, denied, active.mpr (.inr wasActive),
    fun same => foreign (truthful.mp same wasActive)⟩

/-- Activated for its dialect and then for a foreign one, a buffer stays active. -/
theorem foreign_activation_denies_active :
    let responder : Responder Unit Unit := ⟨fun _ => true, fun _ _ => ⟨[], .ok none, ()⟩⟩
    let resolvers : List (Served Unit Unit) := [⟨Config.default, responder⟩]
    let start := ofBuffers fun _ => {}
    let turns : List (Turn Unit) := [⟨(), "a", .activate 0 (some "R")⟩]
    let step := (start.after resolvers turns).step resolvers () "a" (.activate 0 (some "S"))
    (start.buffers "a").state = none ∧ (∀ turn ∈ turns, turn.action.KeepsState) ∧
      step.workspace.IsActive "a" ∧ step.answer = .ok (.activated false) := by
  intro responder resolvers start turns step
  refine ⟨rfl, ?_, ⟨?_, ?_⟩, ?_⟩
  · simp [turns, Action.KeepsState]
  · decide +kernel
  · decide +kernel
  · decide +kernel

end ArgHints.Workspace
