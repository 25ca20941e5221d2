import ArgHints.Proofs.Resolver
import ArgHints.Workspace.Turn

namespace ArgHints.Workspace

variable {ε σ : Type} {workspace before middle after : Workspace} {name other : String}
  {number : Nat}

/-! ## Single changes -/

@[simp]
theorem buffers_setBuffer_self (buffer : Buffer) :
    (workspace.setBuffer name buffer).buffers name = buffer :=
  if_pos rfl

theorem buffers_setBuffer_of_ne (buffer : Buffer) (ne : other ≠ name) :
    (workspace.setBuffer name buffer).buffers other = workspace.buffers other :=
  if_neg ne

@[simp]
theorem states_setState_self (state : DocState) :
    (workspace.setState number state).states number = state :=
  if_pos rfl

theorem states_setState_of_ne (state : DocState) {another : Nat} (ne : another ≠ number) :
    (workspace.setState number state).states another = workspace.states another :=
  if_neg ne

@[simp]
theorem states_setBuffer (buffer : Buffer) :
    (workspace.setBuffer name buffer).states = workspace.states := rfl

@[simp]
theorem buffers_setState (state : DocState) :
    (workspace.setState number state).buffers = workspace.buffers := rfl

theorem own_setState (state : DocState) :
    (workspace.setState number state).own = workspace.own := rfl

theorem setOwn_self (resolver : Nat) :
    workspace.setOwn resolver (workspace.own resolver) = workspace := by
  have same : (fun other =>
      if other = resolver then workspace.own resolver else workspace.own other) =
        workspace.own := by
    funext other
    split
    case isTrue same => rw [same]
    case isFalse => rfl
  rw [setOwn, same]

/-! ## Confined changes -/

/-- A change to one buffer, to the state it has, and to states that are made for it. -/
structure Confined (name : String) (before after : Workspace) : Prop where
  buffers : ∀ other, other ≠ name → after.buffers other = before.buffers other
  states : ∀ number < before.fresh, (before.buffers name).state ≠ some number →
    after.states number = before.states number
  fresh_le : before.fresh ≤ after.fresh
  state : ∀ number, (after.buffers name).state = some number →
    (before.buffers name).state = some number ∨ before.fresh ≤ number ∧ number < after.fresh
  providers : ∀ provider ∈ (after.buffers name).providers,
    provider ∈ (before.buffers name).providers ∨ provider.buffer = name
  own : after.own = before.own

namespace Confined

theorem refl (workspace : Workspace) : Confined name workspace workspace where
  buffers _ _ := rfl
  states _ _ _ := rfl
  fresh_le := Nat.le_refl _
  state _ held := .inl held
  providers _ member := .inl member
  own := rfl

theorem trans (first : Confined name before middle) (second : Confined name middle after) :
    Confined name before after where
  buffers other ne := (second.buffers other ne).trans (first.buffers other ne)
  states number lt apart := by
    have apart' : (middle.buffers name).state ≠ some number := by
      intro held
      rcases first.state number held with held | ⟨le, -⟩
      · exact apart held
      · omega
    have lt' : number < middle.fresh := Nat.lt_of_lt_of_le lt first.fresh_le
    exact (second.states number lt' apart').trans (first.states number lt apart)
  fresh_le := Nat.le_trans first.fresh_le second.fresh_le
  state number held := by
    have le := first.fresh_le
    have le' := second.fresh_le
    rcases second.state number held with held | new
    · rcases first.state number held with held | new
      · exact .inl held
      · exact .inr (by omega)
    · exact .inr (by omega)
  providers provider member := by
    rcases second.providers provider member with member | bound
    · exact first.providers provider member
    · exact .inr bound
  own := second.own.trans first.own

theorem setBuffer {buffer : Buffer}
    (state : ∀ number, buffer.state = some number →
      (workspace.buffers name).state = some number)
    (providers : ∀ provider ∈ buffer.providers,
      provider ∈ (workspace.buffers name).providers ∨ provider.buffer = name) :
    Confined name workspace (workspace.setBuffer name buffer) where
  buffers _ ne := buffers_setBuffer_of_ne buffer ne
  states _ _ _ := rfl
  fresh_le := Nat.le_refl _
  state number held := by
    rw [buffers_setBuffer_self] at held
    exact .inl (state number held)
  providers provider member := by
    rw [buffers_setBuffer_self] at member
    exact providers provider member
  own := rfl

theorem setState (held : (workspace.buffers name).state = some number) (state : DocState) :
    Confined name workspace (workspace.setState number state) where
  buffers _ _ := rfl
  states another _ apart := by
    refine states_setState_of_ne state ?_
    rintro rfl
    exact apart held
  fresh_le := Nat.le_refl _
  state _ held := .inl held
  providers _ member := .inl member
  own := rfl

end Confined

/-- The states that buffers have were made before, and no other buffer has the one of this. -/
structure Owned (name : String) (workspace : Workspace) : Prop where
  lt : ∀ other number, (workspace.buffers other).state = some number → number < workspace.fresh
  alone : ∀ other number, (workspace.buffers name).state = some number →
    (workspace.buffers other).state = some number → other = name

theorem owned_of_bare (bare : (workspace.buffers name).state = none)
    (lt : ∀ other number, (workspace.buffers other).state = some number →
      number < workspace.fresh) : Owned name workspace where
  lt := lt
  alone other number held := by rw [bare] at held; cases held

namespace Owned

theorem docState_of_ne (owned : Owned other before) (confined : Confined name before after)
    (ne : other ≠ name) :
    after.buffers other = before.buffers other ∧
      ∀ number, (before.buffers other).state = some number →
        after.states number = before.states number := by
  refine ⟨confined.buffers other ne, fun number held => ?_⟩
  refine confined.states number (owned.lt other number held) fun same => ?_
  exact ne (owned.alone name number held same).symm

theorem of_confined (owned : Owned other before) (confined : Confined name before after) :
    Owned other after where
  lt another number held := by
    by_cases same : another = name
    · subst same
      rcases confined.state number held with held | new
      · exact Nat.lt_of_lt_of_le (owned.lt another number held) confined.fresh_le
      · exact new.2
    · rw [confined.buffers another same] at held
      exact Nat.lt_of_lt_of_le (owned.lt another number held) confined.fresh_le
  alone another number held held' := by
    -- A number that the changed buffer has now is its old one or new, so no other buffer has it.
    by_cases same : other = name <;> by_cases same' : another = name
    · rw [same, same']
    · subst same
      rw [confined.buffers another same'] at held'
      rcases confined.state number held with held | ⟨le, -⟩
      · exact owned.alone another number held held'
      · exact absurd (owned.lt another number held') (Nat.not_lt_of_le le)
    · subst same'
      rw [confined.buffers other same] at held
      rcases confined.state number held' with held' | ⟨le, -⟩
      · exact owned.alone another number held held'
      · exact absurd (owned.lt other number held) (Nat.not_lt_of_le le)
    · rw [confined.buffers other same] at held
      rw [confined.buffers another same'] at held'
      exact owned.alone another number held held'

end Owned

/-! ## Steps -/

theorem state_withState (workspace : Workspace) (name : String) :
    ((workspace.withState name).2.buffers name).state = some (workspace.withState name).1 := by
  rw [withState]
  split
  case h_1 held => exact held
  case h_2 => simp

theorem withState_confined (workspace : Workspace) (name : String) :
    Confined name workspace (workspace.withState name).2 := by
  rw [withState]
  split
  case h_1 => exact .refl workspace
  case h_2 =>
    refine ⟨fun other ne => if_neg ne, fun number lt _ => if_neg (Nat.ne_of_lt lt),
      Nat.le_succ _, fun number held => ?_, fun provider member => ?_, rfl⟩
    · have same : some workspace.fresh = some number := by simpa using held
      cases same
      exact .inr ⟨Nat.le_refl _, Nat.lt_succ_self _⟩
    · exact .inl (by simpa using member)

theorem bind_confined (workspace : Workspace) (name : String) (resolver : Nat) :
    Confined name workspace (workspace.bind name resolver) := by
  refine .setBuffer (fun _ same => same) fun provider member => ?_
  rcases List.mem_append.mp member with member | member
  · exact .inl member
  · rw [List.mem_singleton.mp member]
    exact .inr rfl

section

variable (held : (workspace.buffers name).state = some number)

include held

theorem register_confined (resolver : Nat) :
    Confined name workspace (workspace.register name number resolver).2 := by
  rw [register]
  split
  case isTrue => exact .refl workspace
  case isFalse =>
    exact (Confined.setState held _).trans (bind_confined _ name resolver)

theorem state_register (resolver : Nat) :
    ((workspace.register name number resolver).2.buffers name).state = some number := by
  rw [register]
  split
  case isTrue => exact held
  case isFalse => simpa using held

theorem enableMode_confined : Confined name workspace (workspace.enableMode name number) := by
  rw [enableMode]
  split
  case isTrue => exact .refl workspace
  case isFalse =>
    exact (Confined.setState held _).trans
      (.setBuffer (fun _ same => same) fun _ member => .inl member)

end

theorem activate_confined (workspace : Workspace) (name : String) (resolver : Nat) (served : String)
    (dialect : Option String) :
    Confined name workspace (workspace.activate name resolver served dialect).2.2 := by
  rw [activate]
  split
  case isTrue => exact .refl workspace
  case isFalse =>
    have held := state_withState workspace name
    exact (withState_confined workspace name).trans
      ((register_confined held resolver).trans (enableMode_confined (state_register held resolver)))

theorem turnModeOff_confined (workspace : Workspace) (name : String) :
    Confined name workspace (workspace.turnModeOff name) := by
  rw [turnModeOff]
  split
  case h_1 => exact .refl workspace
  case h_2 held => exact .setState held _

theorem provide_confined (workspace : Workspace) (served : Served ε σ) (provider : Provider)
    (world : σ) :
    Confined provider.buffer workspace (workspace.provide served provider world).2 := by
  have settled := withState_confined workspace provider.buffer
  have held := state_withState workspace provider.buffer
  simp only [provide]
  split
  case h_1 outcome =>
    rw [Resolver.resolver_of_provideFor _ _ _ _ outcome, ← own_setState, setOwn_self]
    exact settled.trans (.setState held _)
  case h_2 => exact settled

theorem step_confined_or_provide (resolvers : List (Served ε σ)) (world : σ) {action : Action}
    (own : ∀ source, action = .shareState source → source = name) :
    Confined name workspace (workspace.step resolvers world name action).workspace ∨
      ∃ served : Served ε σ, ∃ provider ∈ (workspace.buffers name).providers,
        (workspace.step resolvers world name action).workspace =
          (workspace.provide served provider world).2 := by
  cases action with
  | activate resolver dialect =>
      left
      rw [step]
      split
      case h_1 => exact .refl workspace
      case h_2 served _ =>
        exact activate_confined workspace name resolver served.config.dialect dialect
  | bind resolver =>
      left
      rw [step]
      split
      case h_1 => exact .refl workspace
      case h_2 => exact bind_confined workspace name resolver
  | provide index =>
      rw [step]
      split
      case h_1 => exact .inl (.refl workspace)
      case h_2 provider found =>
        split
        case h_1 => exact .inl (.refl workspace)
        case h_2 served _ => exact .inr ⟨served, provider, List.mem_of_getElem? found, rfl⟩
  | edit edit => exact .inl (.setBuffer (fun _ same => same) fun _ member => .inl member)
  | clearState =>
      refine .inl (.setBuffer ?_ fun _ member => .inl member)
      rintro _ ⟨⟩
  | turnModeOff => exact .inl (turnModeOff_confined workspace name)
  | shareState source =>
      cases own source rfl
      exact .inl (.setBuffer (fun _ same => same) fun _ member => .inl member)

theorem step_confined (resolvers : List (Served ε σ)) (world : σ) {action : Action}
    (bound : ∀ provider ∈ (workspace.buffers name).providers, provider.buffer = name)
    (own : ∀ source, action = .shareState source → source = name) :
    Confined name workspace (workspace.step resolvers world name action).workspace := by
  rcases step_confined_or_provide resolvers world own with
    confined | ⟨served, provider, member, same⟩
  · exact confined
  · rw [same, ← bound provider member]
    exact provide_confined workspace served provider world

theorem owned_take (resolvers : List (Served ε σ)) (owned : Owned other workspace) {turn : Turn σ}
    (own : turn.IsOwn) : Owned other (workspace.take resolvers turn).workspace := by
  rcases step_confined_or_provide resolvers turn.world own with
    confined | ⟨served, provider, -, same⟩
  · exact owned.of_confined confined
  · rw [take, same]
    exact owned.of_confined (provide_confined workspace served provider turn.world)

/-! ## Runs -/

theorem play_invariant (Invariant : Workspace → Prop) {resolvers : List (Served ε σ)}
    {turns : List (Turn σ)} (initial : Invariant workspace)
    (next : ∀ turn ∈ turns, ∀ workspace, Invariant workspace →
      Invariant (workspace.take resolvers turn).workspace) :
    ∀ played ∈ workspace.play resolvers turns, played.turn ∈ turns ∧ Invariant played.before ∧
      played.step = played.before.take resolvers played.turn := by
  induction turns generalizing workspace with
  | nil =>
      intro played member
      cases member
  | cons turn later ih =>
      intro played member
      rcases List.mem_cons.mp member with rfl | member
      · exact ⟨List.mem_cons_self, initial, rfl⟩
      · have kept := next turn List.mem_cons_self workspace initial
        obtain ⟨among, before, same⟩ :=
          ih kept (fun turn among => next turn (.tail _ among)) played member
        exact ⟨.tail _ among, before, same⟩

end ArgHints.Workspace
