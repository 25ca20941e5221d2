import ArgHints.Hint
import ArgHints.Proofs.Inquiry

namespace ArgHints.Hint

variable {ε σ : Type} {snapshot snapshot' : Snapshot}

theorem quiet_ofCall (call : snapshot.call? = snapshot'.call?) (emptyIsMissing : Bool) :
    (ofCall emptyIsMissing snapshot).quiet = (ofCall emptyIsMissing snapshot').quiet := by
  rw [ofCall, ofCall, Inquiry.quiet_noteAll, Inquiry.quiet_noteAll, call]
  cases snapshot'.call? <;> rfl

theorem quiet_find (token : snapshot.token = snapshot'.token)
    (call : snapshot.call? = snapshot'.call?) (emptyIsMissing : Bool) :
    (find emptyIsMissing snapshot).quiet = (find emptyIsMissing snapshot').quiet := by
  rw [find, find, token]
  split
  case isTrue => exact quiet_ofCall call emptyIsMissing
  case isFalse =>
    simp only [Inquiry.quiet]
    congr 1
    funext doc
    cases ofDoc? emptyIsMissing snapshot'.token doc with
    | none => exact quiet_ofCall call emptyIsMissing
    | some hint => rfl

theorem quiet_resolve (token : snapshot.token = snapshot'.token)
    (call : snapshot.call? = snapshot'.call?) (emptyIsMissing active : Bool) :
    (resolve emptyIsMissing active snapshot).quiet =
      (resolve emptyIsMissing active snapshot').quiet := by
  rw [resolve, resolve]
  split
  case isTrue => rw [Inquiry.quiet_map, quiet_find token call, Inquiry.quiet_map]
  case isFalse => rfl

theorem resolve_sameExchange (token : snapshot.token = snapshot'.token)
    (call : snapshot.call? = snapshot'.call?) (emptyIsMissing active : Bool)
    (responder : Responder ε σ) (state : σ) :
    ((resolve emptyIsMissing active snapshot).run responder state).SameExchange
      ((resolve emptyIsMissing active snapshot').run responder state) :=
  Inquiry.sameExchange_of_quiet (quiet_resolve token call emptyIsMissing active) responder state

variable {emptyIsMissing : Bool}

theorem find_of_unnamed (unnamed : snapshot.token = "") :
    find emptyIsMissing snapshot = ofCall emptyIsMissing snapshot := by
  rw [find, if_pos (by simp [unnamed])]

theorem find_of_named (named : snapshot.token ≠ "") :
    find emptyIsMissing snapshot =
      .ask snapshot.token fun doc =>
        .note (.tokenLookup snapshot.token doc) <|
          match ofDoc? emptyIsMissing snapshot.token doc with
          | some hint => .done (some hint)
          | none => ofCall emptyIsMissing snapshot := by
  rw [find]
  exact if_neg (by simpa using named)

section

variable {responder : Responder ε σ} {state : σ} (named : snapshot.token ≠ "")

include named

theorem run_find_of_error {failure : ε}
    (failed : (responder.lookup snapshot.token state).outcome = .error failure) :
    ((find emptyIsMissing snapshot).run responder state).asked = [snapshot.token] ∧
      ((find emptyIsMissing snapshot).run responder state).outcome = .error failure := by
  rw [find_of_named named]
  simp only [Inquiry.run, failed, and_self]

variable {doc : Option String}
  (answered : (responder.lookup snapshot.token state).outcome = .ok doc)

include answered

theorem run_find_of_found {hint : Hint}
    (found : ofDoc? emptyIsMissing snapshot.token doc = some hint) :
    ((find emptyIsMissing snapshot).run responder state).asked = [snapshot.token] ∧
      ((find emptyIsMissing snapshot).run responder state).outcome = .ok (some hint) := by
  rw [find_of_named named]
  simp only [Inquiry.run, answered, found, and_self]

theorem run_find_of_missing (missing : ofDoc? emptyIsMissing snapshot.token doc = none) :
    ((find emptyIsMissing snapshot).run responder state).asked =
        snapshot.token :: ((ofCall emptyIsMissing snapshot).run responder
          (responder.lookup snapshot.token state).state).asked ∧
      ((find emptyIsMissing snapshot).run responder state).outcome =
        ((ofCall emptyIsMissing snapshot).run responder
          (responder.lookup snapshot.token state).state).outcome := by
  rw [find_of_named named]
  simp only [Inquiry.run, answered, missing, and_self]

end

theorem missing_of_run_find {responder : Responder ε σ} {state : σ}
    (nothing : ((find emptyIsMissing snapshot).run responder state).outcome = .ok none) :
    snapshot.token = "" ∨ ∃ doc, (responder.lookup snapshot.token state).outcome = .ok doc ∧
      ofDoc? emptyIsMissing snapshot.token doc = none := by
  by_cases named : snapshot.token = ""
  · exact .inl named
  · right
    cases answered : (responder.lookup snapshot.token state).outcome with
    | error failure =>
        rw [(run_find_of_error named answered).2] at nothing
        cases nothing
    | ok doc =>
        refine ⟨doc, rfl, ?_⟩
        cases found : ofDoc? emptyIsMissing snapshot.token doc with
        | none => rfl
        | some hint =>
            rw [(run_find_of_found named answered found).2] at nothing
            cases nothing

end ArgHints.Hint
