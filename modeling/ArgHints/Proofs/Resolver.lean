import ArgHints.Proofs.Inquiry
import ArgHints.Resolver

namespace ArgHints

variable {α β ε σ : Type}

namespace Inquiry

inductive Unprobing : Inquiry α → Prop where
  | done (answer : α) : Unprobing (done answer)
  | note (event : Event) {rest : Inquiry α} : Unprobing rest → Unprobing (note event rest)
  | ask (name : String) {rest : Option String → Inquiry α} :
      (∀ doc, Unprobing (rest doc)) → Unprobing (ask name rest)

namespace Unprobing

theorem noteAll (events : List Event) {rest : Inquiry α} (unprobing : rest.Unprobing) :
    (noteAll events rest).Unprobing := by
  induction events with
  | nil => exact unprobing
  | cons event events ih => exact .note event ih

theorem map {inquiry : Inquiry α} (unprobing : inquiry.Unprobing) (f : α → β) :
    (inquiry.map f).Unprobing := by
  induction unprobing with
  | done answer => exact .done _
  | note event _ ih => exact .note event ih
  | ask name _ ih => exact .ask name ih

theorem probes_run {inquiry : Inquiry α} (unprobing : inquiry.Unprobing)
    (responder : Responder ε σ) (state : σ) : (inquiry.run responder state).probes = 0 := by
  induction unprobing generalizing state with
  | done answer => rfl
  | note event _ ih => exact ih state
  | ask name _ ih =>
      rw [run]
      split
      case h_1 => rfl
      case h_2 doc _ => exact ih doc _

end Unprobing

end Inquiry

namespace Hint

theorem unprobing_ofCall (emptyIsMissing : Bool) (snapshot : Snapshot) :
    (ofCall emptyIsMissing snapshot).Unprobing := by
  refine .noteAll _ ?_
  split
  case h_1 => exact .note _ (.done _)
  case h_2 => exact .ask _ fun _ => .note _ (.done _)

theorem unprobing_find (emptyIsMissing : Bool) (snapshot : Snapshot) :
    (find emptyIsMissing snapshot).Unprobing := by
  rw [find]
  split
  case isTrue => exact unprobing_ofCall emptyIsMissing snapshot
  case isFalse =>
    refine .ask _ fun doc => .note _ ?_
    split
    case h_1 => exact .done _
    case h_2 => exact unprobing_ofCall emptyIsMissing snapshot

end Hint

theorem Memo.unprobing_fetch (memo : Memo) (name : String) : (memo.fetch name).Unprobing := by
  rw [fetch]
  split
  case isTrue => exact .note _ (.done _)
  case isFalse => exact .ask _ fun _ => .done _

theorem Hint.unprobing_resolveCached (active : Bool) (snapshot : Snapshot) (memo : Memo) :
    (resolveCached active snapshot memo).Unprobing := by
  rw [resolveCached]
  split
  case isTrue => exact memo.unprobing_fetch _
  case isFalse => exact .done _

theorem Config.unprobing_provide (config : Config) (snapshot : Snapshot) (memo : Memo)
    (active : Bool) : (config.provide snapshot memo (some active)).Unprobing := by
  rw [provide, hintWhen]
  split
  case isFalse => exact .note _ (.done _)
  case isTrue =>
    rw [hint]
    split
    case h_1 => exact (Hint.unprobing_resolveCached true snapshot memo).map _
    case h_2 => exact (Hint.unprobing_find config.emptyIsMissing snapshot).map _

namespace Resolver

variable (resolver : Resolver) (snapshot : Snapshot) (responder : Responder ε σ) (state : σ)

theorem probes_provideFor (caller : Option Memo) (active : Bool) :
    ((resolver.provideFor snapshot caller (some active)).run responder state).probes = 0 := by
  refine Inquiry.Unprobing.probes_run ?_ responder state
  cases caller with
  | some memo => exact (resolver.config.unprobing_provide snapshot memo active).map _
  | none => exact ((resolver.config.unprobing_provide snapshot resolver.memo active).map _).map _

theorem resolver_of_provideFor {memo left : Memo} {active : Option Bool} {hint : Option String}
    {after : Resolver}
    (found : ((resolver.provideFor snapshot (some memo) active).run responder state).outcome =
      .ok (hint, left, after)) : after = resolver := by
  rw [provideFor, Inquiry.run_map, Run.map] at found
  cases outcome : ((resolver.config.provide snapshot memo active).run responder state).outcome with
  | error failure => simp [outcome, Except.map] at found
  | ok answered =>
      simp only [outcome, Except.map, Except.ok.injEq, Prod.mk.injEq] at found
      exact found.2.2.symm

end Resolver

end ArgHints
