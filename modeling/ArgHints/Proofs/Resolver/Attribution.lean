import ArgHints.Proofs.Bracket.Enclosing
import ArgHints.Proofs.Resolver.Strategies

/-!
# Whose documentation is shown

A search finds a hint, the documentation of a name together with that name, and only then is it
decided whether the name is shown (`Config.provide_eq_map`). So whether names are shown makes no
difference to what is looked up and remembered. The hint is for the name at the cursor or for the
call around it, and its documentation is the answer for that very name, also where a memo gave it:
`Config.isAnswered_of_provideHint`.
-/

namespace ArgHints

variable {ε σ : Type}

namespace Hint

/-- Whether a hint is for a name at the cursor or around it, with the answer for that name. -/
structure IsAnswered (answer : String → Except ε (Option String)) (snapshot : Snapshot)
    (hint : Hint) : Prop where
  named : hint.name ≠ ""
  near : hint.name = snapshot.token ∨ snapshot.call? = some hint.name
  answered : answer hint.name = .ok (some hint.doc)

theorem ofDoc?_eq_some {emptyIsMissing : Bool} {name : String} {doc : Option String} {hint : Hint}
    (found : ofDoc? emptyIsMissing name doc = some hint) :
    hint.name = name ∧ doc = some hint.doc := by
  obtain ⟨text, rfl, counted⟩ := Option.bind_eq_some_iff.mp found
  split at counted
  case isTrue => cases counted
  case isFalse =>
    cases counted
    exact ⟨rfl, rfl⟩

theorem text_of_named {hint : Hint} (named : hint.name ≠ "") :
    hint.text true = if hint.doc = "" then hint.name else hint.name ++ ": " ++ hint.doc := by
  simp [text, named]

variable {answer : String → Except ε (Option String)} {responder : Responder ε σ}
  {emptyIsMissing : Bool} {snapshot : Snapshot} {state : σ} {hint : Hint}
  (answers : ∀ name state, (responder.lookup name state).outcome = answer name)

include answers

theorem isAnswered_of_ofCall
    (found : ((ofCall emptyIsMissing snapshot).run responder state).outcome = .ok (some hint)) :
    hint.IsAnswered answer snapshot := by
  rw [ofCall, Inquiry.run_noteAll] at found
  cases call : snapshot.call? with
  | none =>
      rw [call] at found
      cases found
  | some name =>
      simp only [call, Inquiry.run, answers] at found
      cases told : answer name with
      | error failure =>
          rw [told] at found
          cases found
      | ok doc =>
          rw [told] at found
          obtain ⟨rfl, rfl⟩ := ofDoc?_eq_some (Except.ok.inj found)
          obtain ⟨_, -, -, named⟩ := Snapshot.opener_of_call? call
          exact ⟨named, .inr call, told⟩

theorem isAnswered_of_find
    (found : ((find emptyIsMissing snapshot).run responder state).outcome = .ok (some hint)) :
    hint.IsAnswered answer snapshot := by
  by_cases named : snapshot.token = ""
  · rw [find_of_unnamed named] at found
    exact isAnswered_of_ofCall answers found
  · cases told : answer snapshot.token with
    | error failure =>
        rw [(run_find_of_error named ((answers _ _).trans told)).2] at found
        cases found
    | ok doc =>
        have told' := (answers snapshot.token state).trans told
        cases counted : ofDoc? emptyIsMissing snapshot.token doc with
        | none =>
            rw [(run_find_of_missing named told' counted).2] at found
            exact isAnswered_of_ofCall answers found
        | some first =>
            rw [(run_find_of_found named told' counted).2] at found
            obtain rfl := Option.some.inj (Except.ok.inj found)
            obtain ⟨same, rfl⟩ := ofDoc?_eq_some counted
            exact ⟨same ▸ named, .inl same, same ▸ told⟩

theorem isAnswered_of_resolveCached {memo left : Memo} {doc : Option String}
    (agrees : memo.Agrees answer)
    (found : ((resolveCached true snapshot memo).run responder state).outcome = .ok (doc, left))
    (counted : ofDoc? emptyIsMissing snapshot.token doc = some hint) :
    hint.IsAnswered answer snapshot := by
  have told := outcome_resolveCached answers agrees snapshot state
  rw [found] at told
  split at told
  case isTrue =>
    obtain rfl := Except.ok.inj told
    cases counted
  case isFalse named =>
    obtain ⟨same, rfl⟩ := ofDoc?_eq_some counted
    exact ⟨same ▸ named, .inl same, same ▸ told.symm⟩

end Hint

def Hint.shown (showName : Bool) (found : Option Hint × Memo) : Option String × Memo :=
  (found.1.map (text showName), found.2)

namespace Config

def findHint (config : Config) (snapshot : Snapshot) (memo : Memo) :
    Inquiry (Option Hint × Memo) :=
  match config.strategy with
  | .cached =>
    (Hint.resolveCached true snapshot memo).map fun found =>
      (Hint.ofDoc? config.emptyIsMissing snapshot.token found.1, found.2)
  | .fallback => (Hint.find config.emptyIsMissing snapshot).map fun hint => (hint, memo)

def findHintWhen (config : Config) (snapshot : Snapshot) (memo : Memo) (active : Bool) :
    Inquiry (Option Hint × Memo) :=
  if active then config.findHint snapshot memo else .note .noInterpreter (.done (none, memo))

def provideHint (config : Config) (snapshot : Snapshot) (memo : Memo) (active : Option Bool) :
    Inquiry (Option Hint × Memo) :=
  match active with
  | some active => config.findHintWhen snapshot memo active
  | none => .probe (config.findHintWhen snapshot memo)

variable (config : Config) (snapshot : Snapshot) (memo : Memo)

theorem hint_eq_map :
    config.hint snapshot memo =
      (config.findHint snapshot memo).map (Hint.shown config.showName) := by
  rw [hint, findHint]
  cases config.strategy with
  | cached => rw [Inquiry.map_map]; rfl
  | fallback => rw [Inquiry.map_map]; rfl

theorem hintWhen_eq_map (active : Bool) :
    config.hintWhen snapshot memo active =
      (config.findHintWhen snapshot memo active).map (Hint.shown config.showName) := by
  cases active with
  | false => rfl
  | true => exact hint_eq_map config snapshot memo

theorem provide_eq_map (active : Option Bool) :
    config.provide snapshot memo active =
      (config.provideHint snapshot memo active).map (Hint.shown config.showName) := by
  cases active with
  | some active => exact hintWhen_eq_map config snapshot memo active
  | none => exact congrArg Inquiry.probe (funext (hintWhen_eq_map config snapshot memo))

section

variable {config snapshot memo} {answer : String → Except ε (Option String)}
  {responder : Responder ε σ} {state : σ} {hint : Hint} {left : Memo}
  (answers : ∀ name state, (responder.lookup name state).outcome = answer name)
  (agrees : memo.Agrees answer)

include answers agrees

theorem isAnswered_of_findHint
    (found : ((config.findHint snapshot memo).run responder state).outcome =
      .ok (some hint, left)) : hint.IsAnswered answer snapshot := by
  cases strategy : config.strategy with
  | cached =>
      rw [findHint, strategy] at found
      simp only [Inquiry.run_map, Run.outcome_map_eq_ok] at found
      obtain ⟨recalled, outcome, made⟩ := found
      exact Hint.isAnswered_of_resolveCached answers agrees outcome (congrArg Prod.fst made)
  | fallback =>
      rw [findHint, strategy] at found
      simp only [Inquiry.run_map, Run.outcome_map_eq_ok] at found
      obtain ⟨sought, outcome, made⟩ := found
      obtain rfl : sought = some hint := congrArg Prod.fst made
      exact Hint.isAnswered_of_find answers outcome

theorem isAnswered_of_provideHint {active : Option Bool}
    (found : ((config.provideHint snapshot memo active).run responder state).outcome =
      .ok (some hint, left)) : hint.IsAnswered answer snapshot := by
  have decided : ∀ active,
      ((config.findHintWhen snapshot memo active).run responder state).outcome =
        .ok (some hint, left) → hint.IsAnswered answer snapshot := by
    intro active found
    cases active with
    | false => cases found
    | true => exact isAnswered_of_findHint answers agrees found
  cases active with
  | none => exact decided _ found
  | some active => exact decided active found

end

end Config

namespace Desk

def configure (desk : Desk σ) (config : Config) : Desk σ :=
  { desk with resolver := { desk.resolver with config } }

def consultAs (responder : Responder ε σ) (showName : Bool) (desk : Desk σ)
    (step : Config × Consultation σ) : Run ε σ (Option String) × Desk σ :=
  (desk.configure { step.1 with showName }).consult responder step.2

def afterAs (responder : Responder ε σ) (showName : Bool) (desk : Desk σ)
    (steps : List (Config × Consultation σ)) : Desk σ :=
  steps.foldl (fun desk step => (desk.consultAs responder showName step).2) desk

theorem memoFor_configure (desk : Desk σ) (config : Config) (caller : Option Nat) :
    (desk.configure config).memoFor caller = desk.memoFor caller := by
  cases caller <;> rfl

def searchHint (responder : Responder ε σ) (desk : Desk σ) (step : Config × Consultation σ) :
    Run ε σ (Option Hint × Memo) :=
  (step.1.provideHint step.2.snapshot (desk.memoFor step.2.caller) step.2.active).run responder
    (step.2.meanwhile desk.world)

section

variable (responder : Responder ε σ) (showName : Bool) (desk : Desk σ)
  (step : Config × Consultation σ)

theorem search_configure :
    (desk.configure { step.1 with showName }).search responder step.2 =
      (desk.searchHint responder step).map (Hint.shown showName) := by
  rw [search, memoFor_configure, searchHint, ← Inquiry.run_map]
  exact congrArg (fun inquiry => Inquiry.run responder inquiry _)
    (Config.provide_eq_map { step.1 with showName } _ _ _)

theorem run_consultAs :
    (desk.consultAs responder showName step).1 =
      (desk.searchHint responder step).map fun found => found.1.map (Hint.text showName) := by
  rw [consultAs, consult_eq, search_configure, Run.map, Run.map, Run.map]
  cases (desk.searchHint responder step).outcome <;> rfl

theorem memoFor_consultAs (other : Option Nat) :
    (desk.consultAs responder showName step).2.memoFor other =
      if other = step.2.caller then
        (desk.searchHint responder step).memoLeft (desk.memoFor step.2.caller)
      else desk.memoFor other := by
  have keeps : ∀ found, (Hint.shown showName found).2 = found.2 := fun _ => rfl
  rw [consultAs, memoFor_consult, search_configure, Run.memoLeft_map keeps, memoFor_configure,
    memoFor_configure]

theorem world_consultAs :
    (desk.consultAs responder showName step).2.world = (desk.searchHint responder step).state := by
  rw [consultAs, consult_eq, search_configure]
  rfl

end

structure Alike (desk desk' : Desk σ) : Prop where
  memos : ∀ caller, desk.memoFor caller = desk'.memoFor caller
  world : desk.world = desk'.world

namespace Alike

variable {desk desk' : Desk σ} (alike : desk.Alike desk') (responder : Responder ε σ)

include alike

theorem searchHint_eq (step : Config × Consultation σ) :
    desk.searchHint responder step = desk'.searchHint responder step := by
  rw [searchHint, searchHint, alike.memos, alike.world]

theorem consultAs (step : Config × Consultation σ) :
    (desk.consultAs responder true step).2.Alike (desk'.consultAs responder false step).2 where
  memos caller := by
    rw [memoFor_consultAs, memoFor_consultAs, alike.searchHint_eq, alike.memos, alike.memos]
  world := by rw [world_consultAs, world_consultAs, alike.searchHint_eq]

theorem afterAs (steps : List (Config × Consultation σ)) :
    (desk.afterAs responder true steps).Alike (desk'.afterAs responder false steps) := by
  induction steps generalizing desk desk' with
  | nil => exact alike
  | cons step later ih => exact ih (alike.consultAs responder step)

end Alike

theorem agrees_afterAs {answer : String → Except ε (Option String)} {responder : Responder ε σ}
    (answers : ∀ name world, (responder.lookup name world).outcome = answer name)
    (showName : Bool) {desk : Desk σ} (agrees : desk.Agrees answer)
    (steps : List (Config × Consultation σ)) :
    (desk.afterAs responder showName steps).Agrees answer := by
  induction steps generalizing desk with
  | nil => exact agrees
  | cons step later ih =>
      have configured : (desk.configure { step.1 with showName }).Agrees answer := by
        intro caller
        rw [memoFor_configure]
        exact agrees caller
      exact ih (configured.consult answers step.2)

/-- Where the answers do not change, resolvers that show names look up and remember the same as
resolvers that do not, whatever each consultation is configured to do. Both show something or
neither does, and what is shown is the documentation answered for a name at the cursor or around it,
behind that very name where names are shown. -/
theorem showName_attributes_hint {answer : String → Except ε (Option String)}
    {responder : Responder ε σ}
    (answers : ∀ name world, (responder.lookup name world).outcome = answer name)
    (config : Config) (world : σ) (earlier : List (Config × Consultation σ))
    (step : Config × Consultation σ) :
    let desk showName := (opened config world).afterAs responder showName earlier
    let run showName := ((desk showName).consultAs responder showName step).1
    let after showName := ((desk showName).consultAs responder showName step).2
    ((run true).asked = (run false).asked ∧ (run true).probes = (run false).probes ∧
        (run true).state = (run false).state) ∧
      (∀ caller, (after true).memoFor caller = (after false).memoFor caller) ∧
      (∀ failure, (run true).outcome = .error failure ↔ (run false).outcome = .error failure) ∧
      ((run true).outcome = .ok none ↔ (run false).outcome = .ok none) ∧
      ∀ doc, (run false).outcome = .ok (some doc) →
        ∃ name, name ≠ "" ∧ (name = step.2.snapshot.token ∨ step.2.snapshot.call? = some name) ∧
          answer name = .ok (some doc) ∧
          (run true).outcome = .ok (some (if doc = "" then name else name ++ ": " ++ doc)) := by
  intro desk run after
  have alike : (desk true).Alike (desk false) :=
    Alike.afterAs ⟨fun _ => rfl, rfl⟩ responder earlier
  have agrees : (desk false).Agrees answer :=
    agrees_afterAs answers false (agrees_opened answer config world) earlier
  have shown : run true = ((desk false).searchHint responder step).map
      fun found => found.1.map (Hint.text true) := by
    rw [← alike.searchHint_eq]
    exact run_consultAs responder true (desk true) step
  have plain : run false = ((desk false).searchHint responder step).map
      fun found => found.1.map (Hint.text false) := run_consultAs responder false (desk false) step
  rw [shown, plain]
  refine ⟨⟨rfl, rfl, rfl⟩, (alike.consultAs responder step).memos, ?_, ?_, ?_⟩
  · intro failure
    rw [Run.outcome_map_eq_error, Run.outcome_map_eq_error]
  · simp only [Run.outcome_map_eq_ok, Option.map_eq_none_iff]
  · intro doc found
    obtain ⟨⟨hint, left⟩, outcome, made⟩ := Run.outcome_map_eq_ok.mp found
    obtain ⟨hint, rfl, rfl⟩ := Option.map_eq_some_iff.mp made
    have answered : hint.IsAnswered answer step.2.snapshot :=
      Config.isAnswered_of_provideHint answers (agrees step.2.caller) outcome
    refine ⟨hint.name, answered.named, answered.near, answered.answered, ?_⟩
    exact Run.outcome_map_eq_ok.mpr
      ⟨_, outcome, congrArg some (Hint.text_of_named answered.named)⟩

theorem attributes_remembered_hint :
    let answer (name : String) : Except Unit (Option String) :=
      .ok (if name = "f" then some "x" else if name = "g" then some "" else none)
    let responder : Responder Unit Unit := ⟨fun _ => true, fun name _ => ⟨[], answer name, ()⟩⟩
    let cached := { Config.default with strategy := .cached }
    let seeing (cursor : Int) : Consultation Unit :=
      ⟨id, some 0, .ofCursor "f(g(1))".toList cursor, none⟩
    let earlier := [(cached, seeing 1), (Config.default, seeing 4)]
    let desk showName := (opened Config.default ()).afterAs responder showName earlier
    let run showName := ((desk showName).consultAs responder showName (cached, seeing 0)).1
    (∀ name world, (responder.lookup name world).outcome = answer name) ∧
      (run false).outcome = .ok (some "x") ∧ (run true).asked = [] ∧
      (run true).outcome = .ok (some "f: x") := by
  intro answer responder cached seeing earlier desk run
  have answers : ∀ name world, (responder.lookup name world).outcome = answer name :=
    fun _ _ => rfl
  have plain : (run false).outcome = .ok (some "x") := by decide +kernel
  have quiet : (run false).asked = [] := by decide +kernel
  obtain ⟨⟨asked, -⟩, -, -, -, attributed⟩ :=
    showName_attributes_hint answers Config.default () earlier (cached, seeing 0)
  obtain ⟨name, -, near, -, shown⟩ := attributed "x" plain
  have token : (seeing 0).snapshot.token = "f" := by decide +kernel
  have call : (seeing 0).snapshot.call? = none := by decide +kernel
  obtain rfl : name = "f" := by
    rcases near with same | around
    · exact same.trans token
    · exact absurd (call.symm.trans around) (by simp)
  exact ⟨answers, plain, asked.trans quiet, shown⟩

end Desk

end ArgHints
