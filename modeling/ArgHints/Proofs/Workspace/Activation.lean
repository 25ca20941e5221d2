import ArgHints.Proofs.Workspace.Confinement
import Mathlib.Data.List.Basic

namespace ArgHints.Workspace

variable {ε σ : Type} {workspace start before after : Workspace} {name other : String}
  {number resolver : Nat} {served : String} {dialect : Option String}

/-! ## What an activation does -/

theorem docState_of_state (held : (workspace.buffers name).state = some number) :
    workspace.docState name = workspace.states number := by
  simp [docState, held]

theorem docState_withState (workspace : Workspace) (name : String) :
    (workspace.withState name).2.docState name = workspace.docState name := by
  cases held : (workspace.buffers name).state <;> simp [docState, withState, held]

theorem buffers_withState (workspace : Workspace) (name : String) :
    (workspace.withState name).2.buffers name =
      { workspace.buffers name with state := some (workspace.withState name).1 } := by
  rw [withState]
  split
  case h_1 held => rw [← held]
  case h_2 => simp

section

variable (held : (workspace.buffers name).state = some number)

include held

theorem docState_register :
    (workspace.register name number resolver).2.docState name =
      { workspace.docState name with
        provider := some ((workspace.docState name).provider.getD ⟨resolver, name⟩) } := by
  have after := state_register held resolver
  rw [docState_of_state after, docState_of_state held, register]
  split
  case isTrue registered =>
    obtain ⟨provider, found⟩ := Option.isSome_iff_exists.mp registered
    rw [found, Option.getD_some, ← found]
  case isFalse blank =>
    rw [Option.not_isSome_iff_eq_none.mp blank, states_setBuffer, states_setState_self,
      Option.getD_none]

theorem buffers_register :
    (workspace.register name number resolver).2.buffers name =
      { workspace.buffers name with
        providers := (workspace.buffers name).providers ++
          if (workspace.docState name).provider.isSome then [] else [⟨resolver, name⟩] } := by
  rw [docState_of_state held, register]
  split <;> simp

theorem docState_enableMode :
    (workspace.enableMode name number).docState name =
      { workspace.docState name with modeOn := true } := by
  rw [docState_of_state held, enableMode]
  split
  case isTrue on => rw [docState_of_state held, ← on]
  case isFalse => simp [docState, held]

theorem buffers_enableMode :
    (workspace.enableMode name number).buffers name =
      { workspace.buffers name with
        modeEnabled := (workspace.buffers name).modeEnabled +
          if (workspace.docState name).modeOn then 0 else 1 } := by
  rw [docState_of_state held, enableMode]
  split <;> simp

end

theorem matched_activate (workspace : Workspace) (name : String) (resolver : Nat)
    (served : String) (dialect : Option String) :
    (workspace.activate name resolver served dialect).1 =
      decide (dialect.getD (workspace.buffers name).dialect = served) := by
  rw [activate]
  split
  case isTrue foreign => exact (decide_eq_false foreign).symm
  case isFalse matched => exact (decide_eq_true (not_not.mp matched)).symm

theorem activate_of_foreign (foreign : dialect.getD (workspace.buffers name).dialect ≠ served) :
    (workspace.activate name resolver served dialect).2.2 = workspace := by
  rw [activate, if_pos foreign]

section

variable (matched : dialect.getD (workspace.buffers name).dialect = served)

include matched

theorem activate_of_match :
    (workspace.activate name resolver served dialect).2.2 =
      ((workspace.withState name).2.register name (workspace.withState name).1
        resolver).2.enableMode name (workspace.withState name).1 := by
  rw [activate, if_neg (not_not_intro matched)]

theorem docState_activate :
    (workspace.activate name resolver served dialect).2.2.docState name =
      { workspace.docState name with
        provider := some ((workspace.docState name).provider.getD ⟨resolver, name⟩)
        modeOn := true } := by
  have held := state_withState workspace name
  rw [activate_of_match matched, docState_enableMode (state_register held resolver),
    docState_register held, docState_withState]

theorem buffers_activate :
    (workspace.activate name resolver served dialect).2.2.buffers name =
      { workspace.buffers name with
        state := some (workspace.withState name).1
        providers := (workspace.buffers name).providers ++
          if (workspace.docState name).provider.isSome then [] else [⟨resolver, name⟩]
        modeEnabled := (workspace.buffers name).modeEnabled +
          if (workspace.docState name).modeOn then 0 else 1 } := by
  have held := state_withState workspace name
  rw [activate_of_match matched, buffers_enableMode (state_register held resolver),
    buffers_register held, buffers_withState, docState_register held, docState_withState]

theorem isActive_activate :
    (workspace.activate name resolver served dialect).2.2.IsActive name := by
  rw [IsActive, docState_activate matched]
  exact ⟨rfl, rfl⟩

end

theorem activate_of_isActive (active : workspace.IsActive name) :
    (workspace.activate name resolver served dialect).2.2 = workspace := by
  by_cases matched : dialect.getD (workspace.buffers name).dialect = served
  · cases held : (workspace.buffers name).state with
    | none => simp [IsActive, docState, held] at active
    | some number =>
        rw [IsActive, docState_of_state held] at active
        rw [activate_of_match matched]
        simp [withState, held, register, enableMode, active.1, active.2]
  · exact activate_of_foreign matched

/-! ## What leaves activation alone -/

/-- A change that leaves a buffer as active as it was. The editor may be handed providers. -/
structure Steady (name : String) (handed : List Provider) (before after : Workspace) : Prop where
  state : ∀ number, (before.buffers name).state = some number →
    (after.buffers name).state = some number
  provider : (after.docState name).provider = (before.docState name).provider
  modeOn : (after.docState name).modeOn = (before.docState name).modeOn
  providers : (after.buffers name).providers = (before.buffers name).providers ++ handed
  modeEnabled : (after.buffers name).modeEnabled = (before.buffers name).modeEnabled

namespace Steady

theorem refl (workspace : Workspace) : Steady name [] workspace workspace where
  state _ held := held
  provider := rfl
  modeOn := rfl
  providers := (List.append_nil _).symm
  modeEnabled := rfl

theorem setBuffer {buffer : Buffer} {handed : List Provider}
    (state : buffer.state = (workspace.buffers name).state)
    (providers : buffer.providers = (workspace.buffers name).providers ++ handed)
    (modeEnabled : buffer.modeEnabled = (workspace.buffers name).modeEnabled) :
    Steady name handed workspace (workspace.setBuffer name buffer) := by
  constructor <;> simp [docState, state, providers, modeEnabled]

theorem withState (workspace : Workspace) (name : String) :
    Steady name [] workspace (workspace.withState name).2 where
  state number held := by simp [Workspace.withState, held]
  provider := by rw [docState_withState]
  modeOn := by rw [docState_withState]
  providers := by rw [buffers_withState, List.append_nil]
  modeEnabled := by rw [buffers_withState]

theorem setMemo (held : (workspace.buffers name).state = some number) (memo : Memo) :
    Steady name [] workspace
      (workspace.setState number { workspace.states number with memo }) := by
  constructor <;> simp [docState, held]

theorem trans {middle : Workspace} {handed : List Provider} (first : Steady name [] before middle)
    (second : Steady name handed middle after) : Steady name handed before after where
  state number held := second.state number (first.state number held)
  provider := second.provider.trans first.provider
  modeOn := second.modeOn.trans first.modeOn
  providers := by rw [second.providers, first.providers, List.append_nil]
  modeEnabled := second.modeEnabled.trans first.modeEnabled

theorem of_confined (owned : Owned name before) (confined : Confined other before after)
    (ne : name ≠ other) : Steady name [] before after := by
  obtain ⟨buffer, states⟩ := owned.docState_of_ne confined ne
  have docState : after.docState name = before.docState name := by
    cases held : (before.buffers name).state with
    | none => simp [docState, buffer, held]
    | some number => simp [docState, buffer, held, states number held]
  constructor <;> simp [buffer, docState]

theorem provide (owned : Owned name workspace) (served : Served ε σ) (provider : Provider)
    (world : σ) : Steady name [] workspace (workspace.provide served provider world).2 := by
  by_cases same : name = provider.buffer
  · subst same
    have settled := withState workspace provider.buffer
    have held := state_withState workspace provider.buffer
    simp only [Workspace.provide]
    split
    case h_1 _ memo _ _ =>
      -- The memos that resolvers keep are no part of what is looked at.
      have kept := settled.trans (setMemo held memo)
      exact ⟨kept.state, kept.provider, kept.modeOn, kept.providers, kept.modeEnabled⟩
    case h_2 => exact settled
  · exact of_confined owned (provide_confined workspace served provider world) same

end Steady

/-! ## Turns -/

section

variable {resolvers : List (Served ε σ)} {world : σ}

theorem step_activate_of_some {provided : Served ε σ}
    (found : resolvers[resolver]? = some provided) :
    workspace.step resolvers world name (.activate resolver dialect) =
      { answer := .ok (.activated
          (workspace.activate name resolver provided.config.dialect dialect).1)
        events := (workspace.activate name resolver provided.config.dialect dialect).2.1
        workspace := (workspace.activate name resolver provided.config.dialect dialect).2.2
        world } := by
  simp only [step, found]

theorem step_activate_of_none (absent : resolvers[resolver]? = none) :
    workspace.step resolvers world name (.activate resolver dialect) =
      { answer := .error .outOfRange, workspace, world } := by
  simp only [step, absent]

theorem world_step_activate (workspace : Workspace) (name : String) (resolver : Nat)
    (dialect : Option String) :
    (workspace.step resolvers world name (.activate resolver dialect)).world = world := by
  cases found : resolvers[resolver]? with
  | none => rw [step_activate_of_none found]
  | some provided => rw [step_activate_of_some found]

theorem workspace_step_of_foreign (foreign : ∀ provided, resolvers[resolver]? = some provided →
      dialect.getD (workspace.buffers name).dialect ≠ provided.config.dialect) :
    (workspace.step resolvers world name (.activate resolver dialect)).workspace = workspace := by
  cases found : resolvers[resolver]? with
  | none => rw [step_activate_of_none found]
  | some provided =>
      rw [step_activate_of_some found]
      exact activate_of_foreign (foreign provided found)

theorem step_activate_twice (workspace : Workspace) (name : String) (resolver : Nat)
    (dialect : Option String) :
    let once := workspace.step resolvers world name (.activate resolver dialect)
    let twice := once.workspace.step resolvers once.world name (.activate resolver dialect)
    twice.answer = once.answer ∧ twice.workspace = once.workspace ∧ twice.world = once.world := by
  intro once twice
  cases found : resolvers[resolver]? with
  | none => simp only [once, twice, step_activate_of_none found, and_self]
  | some provided =>
      simp only [once, twice, step_activate_of_some found, and_true]
      by_cases matched :
          dialect.getD (workspace.buffers name).dialect = provided.config.dialect
      · rw [activate_of_isActive (isActive_activate matched), matched_activate, matched_activate,
          buffers_activate matched]
        exact ⟨rfl, rfl⟩
      · simp only [activate_of_foreign matched, and_self]

end

section

variable {resolvers : List (Served ε σ)} {turn : Turn σ}

theorem Turn.match?_eq_some_iff : turn.match? resolvers workspace name = some resolver ↔
    turn.name = name ∧ ∃ dialect served, turn.action = .activate resolver dialect ∧
      resolvers[resolver]? = some served ∧
      dialect.getD (workspace.buffers name).dialect = served.config.dialect := by
  rw [match?]
  split
  case h_1 another dialect action =>
    simp only [Option.any_eq_true, decide_eq_true_eq, Option.ite_none_right_eq_some,
      Option.some.injEq, action, Action.activate.injEq]
    constructor
    · rintro ⟨⟨named, served, found, matched⟩, rfl⟩
      exact ⟨named, dialect, served, ⟨rfl, rfl⟩, found, matched⟩
    · rintro ⟨named, _, served, ⟨rfl, rfl⟩, found, matched⟩
      exact ⟨⟨named, served, found, matched⟩, rfl⟩
  case h_2 other =>
    simp only [reduceCtorEq, false_iff, not_and, not_exists]
    intro _ dialect served action
    exact absurd action (other resolver dialect)

theorem workspace_take_of_match (matched : turn.match? resolvers workspace name = some resolver) :
    turn.bound? resolvers name = none ∧ ∃ dialect served,
      dialect.getD (workspace.buffers name).dialect = served ∧
      (workspace.take resolvers turn).workspace =
        (workspace.activate name resolver served dialect).2.2 := by
  obtain ⟨rfl, dialect, served, action, found, same⟩ := Turn.match?_eq_some_iff.mp matched
  refine ⟨by rw [Turn.bound?, action], dialect, served.config.dialect, same, ?_⟩
  rw [take, action, step_activate_of_some found]

theorem steady_take (owned : Owned name workspace) (own : turn.IsOwn)
    (keeps : turn.name = name → turn.action.KeepsState)
    (unmatched : turn.match? resolvers workspace name = none) :
    Steady name (turn.bound? resolvers name).toList workspace
      (workspace.take resolvers turn).workspace := by
  by_cases named : turn.name = name
  · have here := keeps named
    obtain ⟨world, _, action⟩ := turn
    subst named
    cases action with
    | activate resolver dialect =>
        rw [take, workspace_step_of_foreign]
        · exact .refl workspace
        · intro provided found matched
          have matched := Turn.match?_eq_some_iff.mpr
            ⟨rfl, dialect, provided, rfl, found, matched⟩
          rw [unmatched] at matched
          cases matched
    | bind resolver =>
        cases found : resolvers[resolver]? with
        | none =>
            have out : ¬ resolver < resolvers.length :=
              Nat.not_lt_of_le (List.getElem?_eq_none_iff.mp found)
            simp only [take, step, found, Turn.bound?, out, and_false, if_false]
            exact .refl workspace
        | some provided =>
            have inside := (List.getElem?_eq_some_iff.mp found).1
            simp only [take, step, found, Turn.bound?, inside, and_true, if_true]
            exact .setBuffer rfl rfl rfl
    | provide index =>
        rw [take, step]
        split
        case h_1 => exact .refl workspace
        case h_2 provider _ =>
          split
          case h_1 => exact .refl workspace
          case h_2 provided _ => exact .provide owned provided provider world
    | edit edit => exact .setBuffer rfl (List.append_nil _).symm rfl
    | clearState => cases here
    | turnModeOff => cases here
    | shareState source => cases here
  · have unbound : turn.bound? resolvers name = none := by
      rw [Turn.bound?]
      split
      case h_1 => exact if_neg fun both => named both.1
      case h_2 => rfl
    rw [unbound]
    rcases step_confined_or_provide resolvers turn.world own with
      confined | ⟨served, provider, -, same⟩
    · exact .of_confined owned confined (Ne.symm named)
    · rw [take, same]
      exact .provide owned served provider turn.world

theorem state_take (owned : Owned name workspace) (own : turn.IsOwn)
    (keeps : turn.name = name → turn.action.KeepsState)
    (held : (workspace.buffers name).state = some number) :
    ((workspace.take resolvers turn).workspace.buffers name).state = some number := by
  cases matched : turn.match? resolvers workspace name with
  | none => exact (steady_take owned own keeps matched).state number held
  | some resolver =>
      obtain ⟨-, dialect, served, same, after⟩ := workspace_take_of_match matched
      rw [after, buffers_activate same]
      simp [withState, held]

end

/-! ## Runs -/

/-- What a buffer has come to since the start, with the resolver of its first matching activation if
there was one, and the providers that the editor was handed without an activation. -/
structure ActivatedFor (name : String) (start : Workspace) (bound : List Provider)
    (first : Option Nat) (workspace : Workspace) : Prop where
  provider : (workspace.docState name).provider = first.map (Provider.mk · name)
  modeOn : (workspace.docState name).modeOn = first.isSome
  providers : (workspace.buffers name).providers.Perm
    ((start.buffers name).providers ++ bound ++ (first.map (Provider.mk · name)).toList)
  modeEnabled : (workspace.buffers name).modeEnabled =
    (start.buffers name).modeEnabled + if first.isSome then 1 else 0

theorem activatedFor_of_bare (bare : (start.buffers name).state = none) :
    ActivatedFor name start [] none start := by
  constructor <;> simp [docState, bare]

namespace ActivatedFor

variable (resolvers : List (Served ε σ)) {bound handed : List Provider} {first : Option Nat}

theorem of_steady (activated : ActivatedFor name start bound first before)
    (steady : Steady name handed before after) :
    ActivatedFor name start (bound ++ handed) first after where
  provider := steady.provider.trans activated.provider
  modeOn := steady.modeOn.trans activated.modeOn
  providers := by
    have moved := activated.providers.append_right handed
    rw [← steady.providers, List.append_assoc] at moved
    rw [← List.append_assoc _ bound handed, List.append_assoc _ handed]
    exact moved.trans (List.perm_append_comm.append_left _)
  modeEnabled := steady.modeEnabled.trans activated.modeEnabled

theorem take {turn : Turn σ} (activated : ActivatedFor name start bound first workspace)
    (owned : Owned name workspace) (own : turn.IsOwn)
    (keeps : turn.name = name → turn.action.KeepsState) :
    ActivatedFor name start (bound ++ (turn.bound? resolvers name).toList)
      (first.or (turn.match? resolvers workspace name))
      (workspace.take resolvers turn).workspace := by
  cases matched : turn.match? resolvers workspace name with
  | none =>
      rw [Option.or_none]
      exact activated.of_steady (steady_take owned own keeps matched)
  | some resolver =>
      obtain ⟨unbound, dialect, served, same, after⟩ := workspace_take_of_match matched
      rw [unbound, after, Option.toList_none, List.append_nil]
      cases first with
      | some earlier =>
          have active : workspace.IsActive name := by
            rw [IsActive, activated.provider, activated.modeOn]
            exact ⟨rfl, rfl⟩
          rw [activate_of_isActive active]
          exact activated
      | none =>
          have blank := activated.provider
          have off := activated.modeOn
          have handed := activated.providers
          have enabled := activated.modeEnabled
          constructor
          · rw [docState_activate same, blank]
            rfl
          · rw [docState_activate same]
            rfl
          · rw [buffers_activate same, blank]
            simpa using handed.append_right [⟨resolver, name⟩]
          · rw [buffers_activate same, off]
            simpa using enabled

theorem run {turns : List (Turn σ)} (activated : ActivatedFor name start bound first workspace)
    (owned : Owned name workspace) (own : ∀ turn ∈ turns, turn.IsOwn)
    (keeps : ∀ turn ∈ turns, turn.name = name → turn.action.KeepsState) :
    ActivatedFor name start (bound ++ turns.filterMap (Turn.bound? resolvers name))
      (first.or ((workspace.play resolvers turns).findSome? (Played.match? resolvers name)))
      (workspace.after resolvers turns) := by
  induction turns generalizing workspace bound first with
  | nil => simpa [play, Workspace.after] using activated
  | cons turn later ih =>
      have own' := own turn List.mem_cons_self
      have here := activated.take resolvers owned own' (keeps turn List.mem_cons_self)
      have rest := ih here (owned_take resolvers owned own')
        (fun turn among => own turn (.tail _ among)) (fun turn among => keeps turn (.tail _ among))
      have found : ((workspace.play resolvers (turn :: later)).findSome?
          (Played.match? resolvers name)) = (turn.match? resolvers workspace name).or
            (((workspace.take resolvers turn).workspace.play resolvers later).findSome?
              (Played.match? resolvers name)) := by
        rw [play, List.findSome?_cons, Played.match?]
        cases turn.match? resolvers workspace name <;> rfl
      rw [found, ← Option.or_assoc, List.filterMap_eq_flatMap_toList, List.flatMap_cons,
        ← List.append_assoc, ← List.filterMap_eq_flatMap_toList]
      exact rest

end ActivatedFor

/-- Up to the first activation that matches nothing is registered or turned on, that one registers
its provider and turns documentation mode on, and no later one does anything. The state that a
buffer has stays and so does the registered provider. An activation that does not match changes
nothing, whatever the workspace, and doing an activation twice is doing it once. -/
theorem play_activates_once (resolvers : List (Served ε σ)) {turns : List (Turn σ)}
    (bare : (start.buffers name).state = none)
    (lt : ∀ other number, (start.buffers other).state = some number → number < start.fresh)
    (own : ∀ turn ∈ turns, turn.IsOwn)
    (keeps : ∀ turn ∈ turns, turn.name = name → turn.action.KeepsState) :
    ActivatedFor name start (turns.filterMap (Turn.bound? resolvers name))
        ((start.play resolvers turns).findSome? (Played.match? resolvers name))
        (start.after resolvers turns) ∧
      (∀ played ∈ start.play resolvers turns,
        (∀ number, (played.before.buffers name).state = some number →
          (played.step.workspace.buffers name).state = some number) ∧
        ∀ provider, (played.before.docState name).provider = some provider →
          (played.step.workspace.docState name).provider = some provider) ∧
      (∀ (workspace : Workspace) (world : σ) (other : String) (resolver : Nat)
          (dialect : Option String),
        (∀ provided, resolvers[resolver]? = some provided →
          dialect.getD (workspace.buffers other).dialect ≠ provided.config.dialect) →
        let step := workspace.step resolvers world other (.activate resolver dialect)
        step.workspace = workspace ∧ step.world = world) ∧
      ∀ (workspace : Workspace) (world : σ) (other : String) (resolver : Nat)
          (dialect : Option String),
        let once := workspace.step resolvers world other (.activate resolver dialect)
        let twice := once.workspace.step resolvers once.world other (.activate resolver dialect)
        twice.answer = once.answer ∧ twice.workspace = once.workspace ∧
          twice.world = once.world := by
  have owned := owned_of_bare bare lt
  have initial := activatedFor_of_bare bare
  refine ⟨initial.run resolvers owned own keeps, fun played member => ?_, ?_, ?_⟩
  · obtain ⟨among, ⟨owned, bound, first, activated⟩, same⟩ := play_invariant
      (fun workspace => Owned name workspace ∧ ∃ bound first,
        ActivatedFor name start bound first workspace)
      ⟨owned, [], none, initial⟩
      (fun turn among _ ⟨owned, _, _, activated⟩ => ⟨owned_take resolvers owned (own turn among),
        _, _, activated.take resolvers owned (own turn among) (keeps turn among)⟩) played member
    rw [same]
    refine ⟨fun number held => state_take owned (own _ among) (keeps _ among) held, ?_⟩
    intro provider registered
    have after := activated.take resolvers owned (own _ among) (keeps _ among)
    rw [after.provider]
    rw [activated.provider] at registered
    obtain ⟨resolver, rfl, rfl⟩ := Option.map_eq_some_iff.mp registered
    rfl
  · intro workspace world other resolver dialect foreign
    exact ⟨workspace_step_of_foreign foreign, world_step_activate workspace other resolver dialect⟩
  · intro workspace world other resolver dialect
    exact step_activate_twice workspace other resolver dialect

theorem activates_once_of_two_resolvers :
    let responder : Responder Unit Unit := ⟨fun _ => true, fun _ _ => ⟨[], .ok none, ()⟩⟩
    let resolvers : List (Served Unit Unit) :=
      [⟨{ Config.default with dialect := "S" }, responder⟩, ⟨Config.default, responder⟩]
    let start := ofBuffers fun _ => { text := "f(x)".toList }
    let turns : List (Turn Unit) := [
      ⟨(), "a", .bind 0⟩, ⟨(), "a", .provide 0⟩, ⟨(), "a", .activate 0 none⟩,
      ⟨(), "a", .activate 1 none⟩, ⟨(), "a", .edit { dialect := some "S" }⟩,
      ⟨(), "a", .activate 0 none⟩]
    (start.buffers "a").state = none ∧
      (∀ other number, (start.buffers other).state = some number → number < start.fresh) ∧
      (∀ turn ∈ turns, turn.IsOwn) ∧
      (∀ turn ∈ turns, turn.name = "a" → turn.action.KeepsState) ∧
      ActivatedFor "a" start [⟨0, "a"⟩] (some 1) (start.after resolvers turns) ∧
      ((start.after resolvers turns).buffers "a").providers = [⟨0, "a"⟩, ⟨1, "a"⟩] := by
  intro responder resolvers start turns
  have bare : (start.buffers "a").state = none := rfl
  have lt : ∀ other number, (start.buffers other).state = some number →
      number < start.fresh := by
    rintro other number ⟨⟩
  have own : ∀ turn ∈ turns, turn.IsOwn := by simp [turns, Turn.IsOwn]
  have keeps : ∀ turn ∈ turns, turn.name = "a" → turn.action.KeepsState := by
    simp [turns, Action.KeepsState]
  obtain ⟨activated, -⟩ := play_activates_once resolvers bare lt own keeps
  have bound : turns.filterMap (Turn.bound? resolvers "a") = [⟨0, "a"⟩] := by decide +kernel
  have first : (start.play resolvers turns).findSome? (Played.match? resolvers "a") = some 1 := by
    decide +kernel
  rw [bound, first] at activated
  exact ⟨bare, lt, own, keeps, activated, by decide +kernel⟩

end ArgHints.Workspace
