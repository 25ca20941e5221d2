import ArgHints.Proofs.Workspace.Confinement
import ArgHints.Workspace.Turn
import Mathlib.Data.List.Basic

/-!
# Buffers keep to themselves

As long as no buffer is handed the state of another one, each has a state of its own, and what is
done to one leaves the others as they are (`Isolated`). So a buffer cannot tell whether others had
their turns between its own: two workspaces that agree on it, up to the number of its state, answer
alike and agree on it afterwards (`Alike.step`).
-/

namespace ArgHints.Workspace

variable {ε σ : Type} {workspace before after first second : Workspace} {name other : String}

/-! ## States of their own -/

/-- No two buffers have one state, each provider reads the buffer that it was given to, and no
resolver has used a memo of its own. -/
structure Isolated (workspace : Workspace) : Prop where
  state_lt : ∀ name number, (workspace.buffers name).state = some number →
    number < workspace.fresh
  state_inj : ∀ name other number, (workspace.buffers name).state = some number →
    (workspace.buffers other).state = some number → name = other
  bound : ∀ name, ∀ provider ∈ (workspace.buffers name).providers, provider.buffer = name
  own : ∀ resolver, workspace.own resolver = .empty

theorem isolated_ofBuffers {buffers : String → Buffer} (bare : ∀ name, (buffers name).state = none)
    (bound : ∀ name, ∀ provider ∈ (buffers name).providers, provider.buffer = name) :
    (ofBuffers buffers).Isolated where
  state_lt name number held := absurd held (by simp [ofBuffers, bare name])
  state_inj name _ number held := absurd held (by simp [ofBuffers, bare name])
  bound := bound
  own _ := rfl

theorem Isolated.owned (isolated : workspace.Isolated) (name : String) : Owned name workspace where
  lt := isolated.state_lt
  alone other number held held' := isolated.state_inj other name number held' held

theorem Isolated.docState_of_ne (isolated : before.Isolated) (confined : Confined name before after)
    (ne : other ≠ name) :
    after.buffers other = before.buffers other ∧
      ∀ number, (before.buffers other).state = some number →
        after.states number = before.states number :=
  (isolated.owned other).docState_of_ne confined ne

theorem Isolated.of_confined (isolated : before.Isolated) (confined : Confined name before after) :
    after.Isolated where
  state_lt := ((isolated.owned name).of_confined confined).lt
  state_inj one other number held held' :=
    ((isolated.owned other).of_confined confined).alone one number held' held
  bound other provider member := by
    by_cases same : other = name
    · subst same
      rcases confined.providers provider member with member | bound
      · exact isolated.bound other provider member
      · exact bound
    · rw [confined.buffers other same] at member
      exact isolated.bound other provider member
  own resolver := by rw [confined.own, isolated.own resolver]

/-! ## Workspaces that agree on a buffer -/

/-- Two workspaces that cannot be told apart by a buffer. The number of its state may differ. -/
structure Alike (name : String) (first second : Workspace) : Prop where
  buffer : second.buffers name =
    { first.buffers name with state := (second.buffers name).state }
  state : (second.buffers name).state.map second.states =
    (first.buffers name).state.map first.states
  own : second.own = first.own

namespace Alike

theorem refl (workspace : Workspace) : Alike name workspace workspace :=
  ⟨rfl, rfl, rfl⟩

theorem look {α : Type} (alike : Alike name first second) (look : Buffer → α)
    (blind : ∀ buffer state, look { buffer with state } = look buffer) :
    look (second.buffers name) = look (first.buffers name) := by
  rw [alike.buffer, blind]

theorem held_cases (alike : Alike name first second) :
    ((first.buffers name).state = none ∧ (second.buffers name).state = none) ∨
      ∃ number number', (first.buffers name).state = some number ∧
        (second.buffers name).state = some number' := by
  have same := alike.state
  cases held : (first.buffers name).state with
  | none => exact .inl ⟨rfl, by simpa [held] using same⟩
  | some number =>
      obtain ⟨number', held', -⟩ : ∃ number', (second.buffers name).state = some number' ∧
          second.states number' = first.states number := by simpa [held] using same
      exact .inr ⟨number, number', rfl, held'⟩

theorem of_ne (alike : Alike name first second) (isolated : first.Isolated)
    (confined : Confined other first after) (ne : name ≠ other) : Alike name after second := by
  obtain ⟨buffer, states⟩ := isolated.docState_of_ne confined ne
  refine ⟨by rw [buffer]; exact alike.buffer, ?_, by rw [confined.own]; exact alike.own⟩
  rw [alike.state, buffer]
  cases held : (first.buffers name).state with
  | none => rfl
  | some number => rw [Option.map_some, Option.map_some, states number held]

section

variable {number number' : Nat} (alike : Alike name first second)
  (held : (first.buffers name).state = some number)
  (held' : (second.buffers name).state = some number')

include alike held held'

theorem docState : second.states number' = first.states number := by
  have same := alike.state
  rw [held, held'] at same
  exact Option.some.inj same

theorem setState (state : DocState) :
    Alike name (first.setState number state) (second.setState number' state) where
  buffer := alike.buffer
  state := by rw [buffers_setState, buffers_setState, held, held']; simp
  own := alike.own

theorem register (resolver : Nat) :
    (second.register name number' resolver).1 = (first.register name number resolver).1 ∧
      Alike name (first.register name number resolver).2
        (second.register name number' resolver).2 := by
  simp only [Workspace.register, alike.docState held held']
  split
  case isTrue => exact ⟨rfl, alike⟩
  case isFalse =>
    refine ⟨rfl, ?_, ?_, alike.own⟩
    · rw [buffers_setBuffer_self, buffers_setBuffer_self, alike.buffer]
    · simp [held, held']

theorem enableMode :
    Alike name (first.enableMode name number) (second.enableMode name number') := by
  simp only [Workspace.enableMode, alike.docState held held']
  split
  case isTrue => exact alike
  case isFalse =>
    refine ⟨?_, ?_, alike.own⟩
    · rw [buffers_setBuffer_self, buffers_setBuffer_self, alike.buffer]
    · simp [held, held']

end

theorem withState (alike : Alike name first second) :
    Alike name (first.withState name).2 (second.withState name).2 := by
  rcases alike.held_cases with ⟨bare, bare'⟩ | ⟨number, number', held, held'⟩
  · simp only [Workspace.withState, bare, bare']
    refine ⟨?_, ?_, alike.own⟩
    · rw [buffers_setState, buffers_setState, buffers_setBuffer_self, buffers_setBuffer_self,
        alike.buffer]
    · simp
  · simp only [Workspace.withState, held, held']
    exact alike

theorem activate (alike : Alike name first second) (resolver : Nat) (served : String)
    (dialect : Option String) :
    (second.activate name resolver served dialect).1 =
        (first.activate name resolver served dialect).1 ∧
      Alike name (first.activate name resolver served dialect).2.2
        (second.activate name resolver served dialect).2.2 := by
  have same := alike.look Buffer.dialect fun _ _ => rfl
  have held := state_withState first name
  have held' := state_withState second name
  have registered := (alike.withState.register held held' resolver).2
  simp only [Workspace.activate, same]
  split
  case isTrue => exact ⟨rfl, alike⟩
  case isFalse =>
    exact ⟨rfl, registered.enableMode (state_register held resolver)
      (state_register held' resolver)⟩

theorem setOwn (alike : Alike name first second) (resolver : Nat) (memo : Memo) :
    Alike name (first.setOwn resolver memo) (second.setOwn resolver memo) :=
  ⟨alike.buffer, alike.state, by rw [Workspace.setOwn, Workspace.setOwn, alike.own]⟩

theorem change (alike : Alike name first second) (change : Buffer → Buffer)
    (keeps : ∀ buffer state, change { buffer with state } = { change buffer with state }) :
    Alike name (first.setBuffer name (change (first.buffers name)))
      (second.setBuffer name (change (second.buffers name))) := by
  have kept (buffer : Buffer) : (change buffer).state = buffer.state := by
    have same := congrArg Buffer.state (keeps buffer buffer.state)
    exact same
  refine ⟨?_, ?_, alike.own⟩
  · rw [buffers_setBuffer_self, buffers_setBuffer_self, kept, ← keeps, ← alike.buffer]
  · rw [buffers_setBuffer_self, buffers_setBuffer_self, kept, kept]
    exact alike.state

theorem bind (alike : Alike name first second) (resolver : Nat) :
    Alike name (first.bind name resolver) (second.bind name resolver) :=
  alike.change (fun buffer => { buffer with providers := buffer.providers ++ [⟨resolver, name⟩] })
    fun _ _ => rfl

theorem edit (alike : Alike name first second) (edit : Edit) :
    Alike name (first.edit name edit) (second.edit name edit) :=
  alike.change
    (fun buffer => {
      buffer with
      text := edit.text.getD buffer.text
      cursor := edit.cursor.getD buffer.cursor
      dialect := edit.dialect.getD buffer.dialect
      active := edit.active.getD buffer.active })
    fun _ _ => rfl

theorem clearState (alike : Alike name first second) :
    Alike name (first.clearState name) (second.clearState name) where
  buffer := by
    rw [Workspace.clearState, Workspace.clearState, buffers_setBuffer_self,
      buffers_setBuffer_self, alike.buffer]
  state := by
    rw [Workspace.clearState, Workspace.clearState, buffers_setBuffer_self,
      buffers_setBuffer_self]
    rfl
  own := alike.own

theorem turnModeOff (alike : Alike name first second) :
    Alike name (first.turnModeOff name) (second.turnModeOff name) := by
  rcases alike.held_cases with ⟨bare, bare'⟩ | ⟨number, number', held, held'⟩
  · simp only [Workspace.turnModeOff, bare, bare']
    exact alike
  · simp only [Workspace.turnModeOff, held, held', alike.docState held held']
    exact alike.setState held held' _

theorem provide {provider : Provider} (alike : Alike provider.buffer first second)
    (served : Served ε σ) (world : σ) :
    (second.provide served provider world).1 = (first.provide served provider world).1 ∧
      Alike provider.buffer (first.provide served provider world).2
        (second.provide served provider world).2 := by
  have settled := alike.withState
  have held := state_withState first provider.buffer
  have held' := state_withState second provider.buffer
  have docState := settled.docState held held'
  have text := settled.look Buffer.text fun _ _ => rfl
  have cursor := settled.look Buffer.cursor fun _ _ => rfl
  have active := settled.look Buffer.active fun _ _ => rfl
  simp only [Workspace.provide, docState, text, cursor, active, settled.own]
  split
  case h_1 => exact ⟨rfl, (settled.setState held held' _).setOwn _ _⟩
  case h_2 => exact ⟨rfl, settled⟩

theorem step (alike : Alike name first second) (resolvers : List (Served ε σ)) (world : σ)
    {action : Action}
    (bound : ∀ provider ∈ (first.buffers name).providers, provider.buffer = name)
    (own : ∀ source, action = .shareState source → source = name) :
    (second.step resolvers world name action).answer =
        (first.step resolvers world name action).answer ∧
      Alike name (first.step resolvers world name action).workspace
        (second.step resolvers world name action).workspace := by
  cases action with
  | activate resolver dialect =>
      rw [Workspace.step, Workspace.step]
      split
      case h_1 => exact ⟨rfl, alike⟩
      case h_2 served _ =>
        obtain ⟨active, after⟩ := alike.activate resolver served.config.dialect dialect
        refine ⟨?_, after⟩
        dsimp only
        rw [active]
  | bind resolver =>
      rw [Workspace.step, Workspace.step]
      split
      case h_1 => exact ⟨rfl, alike⟩
      case h_2 => exact ⟨rfl, alike.bind resolver⟩
  | provide index =>
      have providers := alike.look Buffer.providers fun _ _ => rfl
      rw [Workspace.step, Workspace.step, providers]
      split
      case h_1 => exact ⟨rfl, alike⟩
      case h_2 provider found =>
        split
        case h_1 => exact ⟨rfl, alike⟩
        case h_2 served _ =>
          obtain rfl := bound provider (List.mem_of_getElem? found)
          obtain ⟨run, after⟩ := alike.provide served world
          refine ⟨?_, after⟩
          dsimp only
          rw [run]
  | edit edit => exact ⟨rfl, alike.edit edit⟩
  | clearState => exact ⟨rfl, alike.clearState⟩
  | turnModeOff => exact ⟨rfl, alike.turnModeOff⟩
  | shareState source =>
      obtain rfl := own source rfl
      exact ⟨rfl, alike.change id fun _ _ => rfl⟩

end Alike

/-! ## Turns -/

theorem take_confined (resolvers : List (Served ε σ)) (isolated : workspace.Isolated)
    {turn : Turn σ} (own : turn.IsOwn) :
    Confined turn.name workspace (workspace.take resolvers turn).workspace :=
  step_confined resolvers turn.world (isolated.bound turn.name) own

theorem isolated_take (resolvers : List (Served ε σ)) (isolated : workspace.Isolated)
    {turn : Turn σ} (own : turn.IsOwn) : (workspace.take resolvers turn).workspace.Isolated :=
  isolated.of_confined (take_confined resolvers isolated own)

theorem probes_step (resolvers : List (Served ε σ)) (workspace : Workspace) (world : σ)
    (name : String) (action : Action) :
    (workspace.step resolvers world name action).probes = 0 := by
  cases action with
  | activate => rw [step]; split <;> rfl
  | bind => rw [step]; split <;> rfl
  | provide index =>
      rw [step]
      split
      case h_1 => rfl
      case h_2 provider _ =>
        split
        case h_1 => rfl
        case h_2 served _ =>
          simp only [provide]
          split
          all_goals exact Resolver.probes_provideFor ..
  | edit => rfl
  | clearState => rfl
  | turnModeOff => rfl
  | shareState => rfl

theorem play_cases (resolvers : List (Served ε σ)) {turns : List (Turn σ)}
    (isolated : workspace.Isolated) (own : ∀ turn ∈ turns, turn.IsOwn) :
    ∀ played ∈ workspace.play resolvers turns, played.turn.IsOwn ∧ played.before.Isolated ∧
      played.step = played.before.take resolvers played.turn := by
  intro played member
  obtain ⟨among, isolated', same⟩ := play_invariant Isolated isolated
    (fun turn among _ isolated => isolated_take resolvers isolated (own turn among)) played member
  exact ⟨own _ among, isolated', same⟩

def answers (name : String) (run : List (Played ε σ)) : List (Except (Failure ε) Answer) :=
  (run.filter fun played => played.turn.name = name).map fun played => played.step.answer

theorem Alike.answers_play (alike : Alike name first second) (resolvers : List (Served ε σ))
    (isolated : first.Isolated) (turns : List (Turn σ)) (own : ∀ turn ∈ turns, turn.IsOwn) :
    answers name (first.play resolvers turns) =
      (second.play resolvers (turns.filter fun turn => turn.name = name)).map
        fun played => played.step.answer := by
  induction turns generalizing first second with
  | nil => rfl
  | cons turn later ih =>
      have here := own turn List.mem_cons_self
      have later' := fun turn among => own turn (List.mem_cons_of_mem _ among)
      have isolated' := isolated_take resolvers isolated here
      by_cases named : turn.name = name
      · subst named
        obtain ⟨answer, alike'⟩ := alike.step resolvers turn.world (isolated.bound turn.name) here
        have rest := ih alike' isolated' later'
        rw [play, answers, List.filter_cons_of_pos (by simp), List.filter_cons_of_pos (by simp),
          play, List.map_cons, List.map_cons]
        exact List.cons_eq_cons.mpr ⟨answer.symm, rest⟩
      · have rest := ih (alike.of_ne isolated (take_confined resolvers isolated here)
          (Ne.symm named)) isolated' later'
        rw [play, answers, List.filter_cons_of_neg (by simpa using named),
          List.filter_cons_of_neg (by simpa using named)]
        exact rest

/-- As long as no state is handed on, buffers that start without one never share one, and what is
done to a buffer changes neither another one nor its state. No resolver uses its own memo or asks
for a running interpreter. Each buffer gets the answers that it would get alone. -/
theorem play_isolated (resolvers : List (Served ε σ)) {buffers : String → Buffer}
    {turns : List (Turn σ)} (bare : ∀ name, (buffers name).state = none)
    (bound : ∀ name, ∀ provider ∈ (buffers name).providers, provider.buffer = name)
    (own : ∀ turn ∈ turns, turn.IsOwn) :
    (∀ played ∈ (ofBuffers buffers).play resolvers turns,
      (∀ one other number, (played.step.workspace.buffers one).state = some number →
        (played.step.workspace.buffers other).state = some number → one = other) ∧
      (∀ other, other ≠ played.turn.name →
        played.step.workspace.buffers other = played.before.buffers other ∧
        ∀ number, (played.before.buffers other).state = some number →
          played.step.workspace.states number = played.before.states number) ∧
      (∀ resolver, played.step.workspace.own resolver = .empty) ∧
      played.step.probes = 0) ∧
    ∀ name, answers name ((ofBuffers buffers).play resolvers turns) =
      ((ofBuffers buffers).play resolvers (turns.filter fun turn => turn.name = name)).map
        fun played => played.step.answer := by
  have initial := isolated_ofBuffers bare bound
  refine ⟨fun played member => ?_, fun name =>
    (Alike.refl (ofBuffers buffers)).answers_play resolvers initial turns own⟩
  obtain ⟨here, isolated, same⟩ := play_cases resolvers initial own played member
  have confined := take_confined resolvers isolated here
  have isolated' := isolated_take resolvers isolated here
  rw [same]
  exact ⟨isolated'.state_inj, fun other ne => isolated.docState_of_ne confined ne, isolated'.own,
    probes_step ..⟩

theorem play_of_two_buffers :
    let responder : Responder Unit (Option String) :=
      ⟨fun _ => true, fun _ doc => ⟨[], .ok doc, doc⟩⟩
    let resolvers : List (Served Unit (Option String)) :=
      [⟨{ Config.default with strategy := .cached }, responder⟩]
    let buffers : String → Buffer := fun _ => { text := "f(x)".toList }
    let turns : List (Turn (Option String)) := [
      ⟨none, "a", .activate 0 none⟩, ⟨none, "b", .bind 0⟩, ⟨some "x", "a", .provide 0⟩,
      ⟨some "y", "b", .provide 0⟩, ⟨some "z", "a", .provide 0⟩, ⟨none, "a", .clearState⟩,
      ⟨some "z", "a", .provide 0⟩]
    let run := (ofBuffers buffers).play resolvers turns
    (∀ name, (buffers name).state = none) ∧
      (∀ name, ∀ provider ∈ (buffers name).providers, provider.buffer = name) ∧
      (∀ turn ∈ turns, turn.IsOwn) ∧
      answers "a" run =
        ((ofBuffers buffers).play resolvers (turns.filter fun turn => turn.name = "a")).map
          (fun played => played.step.answer) ∧
      answers "a" run = [.ok (.activated true), .ok (.hint (some "x")), .ok (.hint (some "x")),
        .ok .nothing, .ok (.hint (some "z"))] := by
  intro responder resolvers buffers turns run
  have own : ∀ turn ∈ turns, turn.IsOwn := by simp [turns, Turn.IsOwn]
  have bare : ∀ name, (buffers name).state = none := fun _ => rfl
  have bound : ∀ name, ∀ provider ∈ (buffers name).providers, provider.buffer = name := by
    rintro name provider ⟨⟩
  obtain ⟨-, alone⟩ := play_isolated resolvers bare bound own
  exact ⟨bare, bound, own, alone "a", by decide +kernel⟩

end ArgHints.Workspace
