import ArgHints.Proofs.Hint
import ArgHints.Proofs.Resolver.Consultation
import Mathlib.Data.List.Basic

namespace ArgHints

variable {ε σ : Type} {answer : String → Except ε (Option String)} {responder : Responder ε σ}

theorem Hint.outcome_resolveCached
    (answers : ∀ name state, (responder.lookup name state).outcome = answer name) {memo : Memo}
    (agrees : memo.Agrees answer) (snapshot : Snapshot) (state : σ) :
    ((resolveCached true snapshot memo).run responder state).outcome.map Prod.fst =
      if snapshot.token = "" then .ok none else answer snapshot.token := by
  rw [(resolveCached_matches answers agrees true snapshot state).outcome]
  split
  case isTrue unnamed =>
    rw [resolveCached_of_idle (.inr unnamed)]
    rfl
  case isFalse named =>
    rw [resolveCached_of_asks ⟨rfl, named, by rintro entry ⟨⟩⟩]
    simp only [Inquiry.run, answers]
    cases answer snapshot.token with
    | error failure => rfl
    | ok doc => rfl

namespace Config

variable {config : Config} {snapshot : Snapshot} {memo : Memo} {state : σ}

theorem run_provide (config : Config) (snapshot : Snapshot) (memo : Memo)
    (responder : Responder ε σ) (state : σ) (active : Option Bool) :
    ((config.provide snapshot memo active).run responder state).asked =
        ((config.hintWhen snapshot memo (active.getD (responder.active state))).run responder
          state).asked ∧
      ((config.provide snapshot memo active).run responder state).outcome =
        ((config.hintWhen snapshot memo (active.getD (responder.active state))).run responder
          state).outcome := by
  cases active with
  | none =>
      rw [provide, Inquiry.run]
      exact ⟨rfl, rfl⟩
  | some active =>
      rw [provide]
      exact ⟨rfl, rfl⟩

theorem run_provide_of_active {active : Option Bool}
    (isActive : active.getD (responder.active state) = true) :
    ((config.provide snapshot memo active).run responder state).asked =
        ((config.hint snapshot memo).run responder state).asked ∧
      ((config.provide snapshot memo active).run responder state).outcome =
        ((config.hint snapshot memo).run responder state).outcome := by
  have same := config.run_provide snapshot memo responder state active
  rwa [isActive, hintWhen, if_pos rfl] at same

theorem outcome_hint_of_cached
    (answers : ∀ name state, (responder.lookup name state).outcome = answer name)
    (agrees : memo.Agrees answer) (cached : config.strategy = .cached) :
    ((config.hint snapshot memo).run responder state).outcome.map Prod.fst =
      if snapshot.token = "" then .ok none
      else (answer snapshot.token).map fun doc =>
        (Hint.ofDoc? config.emptyIsMissing snapshot.token doc).map (Hint.text config.showName) := by
  have told := Hint.outcome_resolveCached answers agrees snapshot state
  rw [hint, cached]
  simp only [Inquiry.run_map, Run.map]
  cases outcome : ((Hint.resolveCached true snapshot memo).run responder state).outcome with
  | error failure =>
      rw [outcome] at told
      split at told
      case isTrue => cases told
      case isFalse named => rw [if_neg named, ← told]; rfl
  | ok found =>
      rw [outcome] at told
      split at told
      case isTrue unnamed => rw [if_pos unnamed, Except.map, Except.map, Except.ok.inj told]; rfl
      case isFalse named => rw [if_neg named, ← told]; rfl

theorem run_hint_of_fallback (fallback : config.strategy = .fallback) :
    ((config.hint snapshot memo).run responder state).asked =
        ((Hint.find config.emptyIsMissing snapshot).run responder state).asked ∧
      ((config.hint snapshot memo).run responder state).outcome.map Prod.fst =
        ((Hint.find config.emptyIsMissing snapshot).run responder state).outcome.map
          (Option.map (Hint.text config.showName)) := by
  rw [hint, fallback]
  simp only [Inquiry.run_map, Run.map, true_and]
  cases ((Hint.find config.emptyIsMissing snapshot).run responder state).outcome with
  | error failure => rfl
  | ok hint => rfl

end Config

namespace Desk

variable {consultation : Consultation σ}

section

variable {desk : Desk σ} (active : desk.isActive responder consultation = true)

include active

theorem outcome_consult_of_cached
    (answers : ∀ name world, (responder.lookup name world).outcome = answer name)
    (agrees : desk.Agrees answer) (cached : desk.resolver.config.strategy = .cached) :
    (desk.consult responder consultation).1.outcome =
      if consultation.snapshot.token = "" then .ok none
      else (answer consultation.snapshot.token).map fun doc =>
        (Hint.ofDoc? desk.resolver.config.emptyIsMissing consultation.snapshot.token doc).map
          (Hint.text desk.resolver.config.showName) := by
  rw [consult_eq, ← Config.outcome_hint_of_cached answers (agrees consultation.caller) cached]
  exact congrArg (Except.map Prod.fst) (Config.run_provide_of_active active).2

theorem consult_of_fallback (fallback : desk.resolver.config.strategy = .fallback) :
    let run := (Hint.find desk.resolver.config.emptyIsMissing consultation.snapshot).run responder
      (consultation.meanwhile desk.world)
    (desk.consult responder consultation).1.asked = run.asked ∧
      (desk.consult responder consultation).1.outcome =
        run.outcome.map (Option.map (Hint.text desk.resolver.config.showName)) := by
  obtain ⟨asked, outcome⟩ := Config.run_provide_of_active active
  obtain ⟨asked', outcome'⟩ := Config.run_hint_of_fallback fallback
  rw [consult_eq]
  exact ⟨asked.trans asked', (congrArg (Except.map Prod.fst) outcome).trans outcome'⟩

end

/-- What the cached strategy shows the fallback strategy shows too, with one lookup of the name at
the cursor, whatever was asked before. So where the fallback strategy shows nothing neither does the
cached one. -/
theorem fallback_of_cached
    (answers : ∀ name world, (responder.lookup name world).outcome = answer name)
    (config : Config) (world : σ) (earlier : List (Consultation σ)) {desk direct : Desk σ}
    (cached : desk = (opened { config with strategy := .cached } world).after responder earlier)
    (fallback : direct.resolver.config = { config with strategy := .fallback })
    (active : desk.isActive responder consultation = true)
    (active' : direct.isActive responder consultation = true) :
    (∀ hint, (desk.consult responder consultation).1.outcome = .ok (some hint) →
      (direct.consult responder consultation).1.outcome = .ok (some hint) ∧
        (direct.consult responder consultation).1.asked = [consultation.snapshot.token]) ∧
      ((direct.consult responder consultation).1.outcome = .ok none →
        (desk.consult responder consultation).1.outcome = .ok none) := by
  have sameConfig : desk.resolver.config = { config with strategy := .cached } :=
    cached ▸ config_after responder _ earlier
  have agrees : desk.Agrees answer := cached ▸ (agrees_opened answer _ world).after answers earlier
  have shown := outcome_consult_of_cached active answers agrees (by rw [sameConfig])
  obtain ⟨asked, outcome⟩ := consult_of_fallback active' (by rw [fallback])
  rw [sameConfig] at shown
  rw [fallback] at asked outcome
  constructor
  · intro hint found
    rw [found] at shown
    split at shown
    case isTrue => cases shown
    case isFalse named =>
      -- What a memo shows was answered, so the first lookup already finds it.
      cases told : answer consultation.snapshot.token with
      | error failure => rw [told] at shown; cases shown
      | ok doc =>
          rw [told, Except.map, Except.ok.injEq] at shown
          obtain ⟨found, counted, rfl⟩ := Option.map_eq_some_iff.mp shown.symm
          obtain ⟨once, same⟩ :=
            Hint.run_find_of_found named ((answers _ _).trans told) counted
          rw [asked, outcome, once, same]
          exact ⟨rfl, rfl⟩
  · intro nothing
    rw [nothing] at outcome
    cases found : ((Hint.find config.emptyIsMissing consultation.snapshot).run responder
        (consultation.meanwhile direct.world)).outcome with
    | error failure => rw [found] at outcome; cases outcome
    | ok result =>
        rw [found, Except.map, Except.ok.injEq] at outcome
        rw [Option.map_eq_none_iff.mp outcome.symm] at found
        rw [shown]
        -- The fallback search was told that there is nothing, and the memo agrees with that.
        rcases Hint.missing_of_run_find found with unnamed | ⟨doc, told, missing⟩
        · rw [if_pos unnamed]
        · rw [← answers, told, Except.map, missing, Option.map_none, ite_self]

theorem fallback_of_remembered :
    let answer (name : String) : Except Unit (Option String) :=
      .ok (if name = "f" then some "x" else none)
    let responder : Responder Unit Unit := ⟨fun _ => true, fun name _ => ⟨[], answer name, ()⟩⟩
    let config := { Config.default with showName := true }
    let consultation : Consultation Unit := ⟨id, some 0, .ofCursor "f(x)".toList 1, none⟩
    let desk := (opened { config with strategy := .cached } ()).after responder [consultation]
    let direct := opened { config with strategy := .fallback } ()
    (∀ name world, (responder.lookup name world).outcome = answer name) ∧
      direct.resolver.config = { config with strategy := .fallback } ∧
      desk.isActive responder consultation = true ∧
      direct.isActive responder consultation = true ∧
      (desk.consult responder consultation).1.asked = [] ∧
      (desk.consult responder consultation).1.outcome = .ok (some "f: x") ∧
      (direct.consult responder consultation).1.outcome = .ok (some "f: x") ∧
      (direct.consult responder consultation).1.asked = [consultation.snapshot.token] ∧
      consultation.snapshot.token = "f" := by
  intro answer responder config consultation desk direct
  have answers : ∀ name world, (responder.lookup name world).outcome = answer name :=
    fun _ _ => rfl
  have shown : (desk.consult responder consultation).1.outcome = .ok (some "f: x") := by
    decide +kernel
  have fallback : direct.resolver.config = { config with strategy := .fallback } := rfl
  have active : desk.isActive responder consultation = true := rfl
  have active' : direct.isActive responder consultation = true := rfl
  obtain ⟨same, -⟩ :=
    fallback_of_cached answers config () [consultation] rfl fallback active active'
  obtain ⟨outcome, asked⟩ := same "f: x" shown
  exact ⟨answers, fallback, active, active', by decide +kernel, shown, outcome, asked,
    by decide +kernel⟩

end Desk

end ArgHints
