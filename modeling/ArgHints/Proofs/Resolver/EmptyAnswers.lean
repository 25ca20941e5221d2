import ArgHints.Proofs.Resolver.Consultation
import Mathlib.Data.List.Forall2

namespace ArgHints

variable {ε σ : Type}

def dropEmpty (doc : Option String) : Option String :=
  doc.filter fun text => !text.isEmpty

def Memo.revise (revision : Option String → Option String) (memo : Memo) : Memo :=
  ⟨memo.entry.map fun entry => ⟨entry.name, revision entry.doc⟩⟩

theorem Memo.holds_revise (revision : Option String → Option String) (memo : Memo)
    (name : String) : (memo.revise revision).holds name = memo.holds name := by
  rw [holds, holds, revise, Option.any_map]

theorem Memo.revise_fetch (revision : Option String → Option String) (memo : Memo) (name : String) :
    ((memo.revise revision).fetch name).revise revision =
      (memo.fetch name).map (Prod.map revision (revise revision)) := by
  rw [fetch, fetch, holds_revise]
  cases held : memo.holds name with
  | false => rfl
  | true =>
      obtain ⟨entry, kept, -⟩ := (holds_iff memo name).mp held
      obtain rfl : memo = ⟨some entry⟩ := congrArg Memo.mk kept
      rfl

namespace Hint

variable (snapshot : Snapshot)

theorem ofDoc?_dropEmpty (name : String) (doc : Option String) :
    ofDoc? false name (dropEmpty doc) = ofDoc? true name doc := by
  cases doc with
  | none => rfl
  | some text => by_cases empty : text = "" <;> simp [ofDoc?, dropEmpty, Option.filter, empty]

theorem quiet_ofCall_dropEmpty :
    ((ofCall false snapshot).revise dropEmpty).quiet = (ofCall true snapshot).quiet := by
  rw [Inquiry.quiet_revise, ofCall, ofCall, Inquiry.quiet_noteAll, Inquiry.quiet_noteAll]
  cases snapshot.call? with
  | none => rfl
  | some name => simp only [Inquiry.quiet, Inquiry.revise, ofDoc?_dropEmpty]

theorem quiet_find_dropEmpty :
    ((find false snapshot).revise dropEmpty).quiet = (find true snapshot).quiet := by
  rw [find, find]
  split
  case isTrue => exact quiet_ofCall_dropEmpty snapshot
  case isFalse =>
    simp only [Inquiry.revise, Inquiry.quiet, ofDoc?_dropEmpty]
    congr 1
    funext doc
    -- What counts as missing here was not there at all on the other side, so both go on.
    cases ofDoc? true snapshot.token doc with
    | none => exact quiet_ofCall_dropEmpty snapshot
    | some hint => rfl

theorem quiet_resolve_dropEmpty (active : Bool) :
    ((resolve false active snapshot).revise dropEmpty).quiet =
      (resolve true active snapshot).quiet := by
  cases active with
  | false => rfl
  | true =>
      rw [resolve, resolve, if_pos rfl, if_pos rfl, Inquiry.revise_map, Inquiry.quiet_map,
        quiet_find_dropEmpty, Inquiry.quiet_map]

theorem revise_resolveCached (active : Bool) (memo : Memo) :
    (resolveCached active snapshot (memo.revise dropEmpty)).revise dropEmpty =
      (resolveCached active snapshot memo).map (Prod.map dropEmpty (Memo.revise dropEmpty)) := by
  rw [resolveCached, resolveCached]
  split
  case isTrue => exact memo.revise_fetch dropEmpty snapshot.token
  case isFalse => rfl

end Hint

namespace Config

variable {config : Config} (missing : config.emptyIsMissing = true) (snapshot : Snapshot)
  (memo : Memo)

include missing

theorem quiet_hint_dropEmpty :
    ((hint { config with emptyIsMissing := false } snapshot (memo.revise dropEmpty)).revise
        dropEmpty).quiet =
      ((config.hint snapshot memo).map (Prod.map id (Memo.revise dropEmpty))).quiet := by
  rw [hint, hint, missing]
  cases config.strategy with
  | cached =>
      simp only [Inquiry.revise_map, Hint.revise_resolveCached, Inquiry.map_map]
      congr 2
      funext found
      simp only [Function.comp, Prod.map, Hint.ofDoc?_dropEmpty, id]
  | fallback =>
      simp only [Inquiry.revise_map, Inquiry.quiet_map, Hint.quiet_find_dropEmpty, Inquiry.map_map]
      rfl

theorem quiet_provide_dropEmpty (active : Option Bool) :
    ((provide { config with emptyIsMissing := false } snapshot (memo.revise dropEmpty)
        active).revise dropEmpty).quiet =
      ((config.provide snapshot memo active).map (Prod.map id (Memo.revise dropEmpty))).quiet := by
  have decided (active : Bool) :
      ((hintWhen { config with emptyIsMissing := false } snapshot (memo.revise dropEmpty)
          active).revise dropEmpty).quiet =
        ((config.hintWhen snapshot memo active).map
          (Prod.map id (Memo.revise dropEmpty))).quiet := by
    cases active with
    | false => rfl
    | true => exact quiet_hint_dropEmpty missing snapshot memo
  cases active with
  | none => exact congrArg Inquiry.probe (funext decided)
  | some active => exact decided active

end Config

theorem Run.memoLeft_map_revise {α : Type} (revision : Option String → Option String)
    (run : Run ε σ (α × Memo)) (memo : Memo) :
    (run.map (Prod.map id (Memo.revise revision))).memoLeft (memo.revise revision) =
      (run.memoLeft memo).revise revision := by
  cases outcome : run.outcome with
  | error failure => simp only [memoLeft, Run.map, outcome, Except.map]
  | ok found => simp only [memoLeft, Run.map, outcome, Except.map, Prod.map]

namespace Desk

/-- The desk that counts empty documentation as found and has not been given any. -/
def neverEmpty (desk : Desk σ) : Desk σ where
  resolver := ⟨{ desk.resolver.config with emptyIsMissing := false },
    desk.resolver.memo.revise dropEmpty⟩
  memos number := (desk.memos number).revise dropEmpty
  world := desk.world

theorem memoFor_neverEmpty (desk : Desk σ) (caller : Option Nat) :
    desk.neverEmpty.memoFor caller = (desk.memoFor caller).revise dropEmpty := by
  cases caller with
  | none => rfl
  | some number => rfl

theorem keep_neverEmpty (desk : Desk σ) (caller : Option Nat) (memo : Memo) :
    desk.neverEmpty.keep caller (memo.revise dropEmpty) = (desk.keep caller memo).neverEmpty := by
  cases caller with
  | none => rfl
  | some number =>
      simp only [keep, setMemo, neverEmpty, apply_ite (Memo.revise dropEmpty)]

variable (responder : Responder ε σ) {desk : Desk σ}
  (missing : desk.resolver.config.emptyIsMissing = true)

include missing

theorem search_neverEmpty (consultation : Consultation σ) :
    ((desk.search responder consultation).map (Prod.map id (Memo.revise dropEmpty))).SameExchange
      (desk.neverEmpty.search (responder.revise dropEmpty) consultation) := by
  rw [search, search, memoFor_neverEmpty, Inquiry.run_revise, ← Inquiry.run_map]
  exact Inquiry.sameExchange_of_quiet
    (Config.quiet_provide_dropEmpty missing _ _ consultation.active).symm responder _

theorem consult_neverEmpty (consultation : Consultation σ) :
    (desk.consult responder consultation).1.SameExchange
        (desk.neverEmpty.consult (responder.revise dropEmpty) consultation).1 ∧
      (desk.neverEmpty.consult (responder.revise dropEmpty) consultation).2 =
        (desk.consult responder consultation).2.neverEmpty := by
  have same := search_neverEmpty responder missing consultation
  have shown : ((desk.search responder consultation).map Prod.fst).outcome =
      ((desk.neverEmpty.search (responder.revise dropEmpty) consultation).map
        Prod.fst).outcome := by
    rw [Run.map, Run.map, ← same.outcome, Run.map]
    cases (desk.search responder consultation).outcome with
    | error failure => rfl
    | ok found => rfl
  have left : (desk.neverEmpty.search (responder.revise dropEmpty) consultation).memoLeft
      (desk.neverEmpty.memoFor consultation.caller) =
        ((desk.search responder consultation).memoLeft
          (desk.memoFor consultation.caller)).revise dropEmpty := by
    rw [← Run.memoLeft_map_revise, ← memoFor_neverEmpty]
    simp only [Run.memoLeft, same.outcome]
  rw [consult_eq, consult_eq, left, keep_neverEmpty]
  refine ⟨⟨same.asked, same.probes, shown, same.state⟩, ?_⟩
  rw [← same.state]
  rfl

theorem consultAll_neverEmpty (consultations : List (Consultation σ)) :
    List.Forall₂ Run.SameExchange (desk.consultAll responder consultations)
      (desk.neverEmpty.consultAll (responder.revise dropEmpty) consultations) := by
  induction consultations generalizing desk with
  | nil => exact .nil
  | cons consultation later ih =>
      obtain ⟨same, left⟩ := consult_neverEmpty responder missing consultation
      rw [consultAll_cons, consultAll_cons, left]
      refine .cons same (ih ?_)
      rw [config_consult, missing]

end Desk

/-- A resolver that counts empty documentation as missing asks and answers the same as one that
counts it as found and is told that there is none. So does a single search. -/
theorem sameExchange_dropEmpty (responder : Responder ε σ) :
    (∀ (config : Config) (world : σ) (consultations : List (Consultation σ)),
      List.Forall₂ Run.SameExchange
        ((Desk.opened { config with emptyIsMissing := true } world).consultAll responder
          consultations)
        ((Desk.opened { config with emptyIsMissing := false } world).consultAll
          (responder.revise dropEmpty) consultations)) ∧
      ∀ (active : Bool) (text : List Char) (cursor : Int) (world : σ),
        ((Hint.resolve true active (.ofCursor text cursor)).run responder world).SameExchange
          ((Hint.resolve false active (.ofCursor text cursor)).run (responder.revise dropEmpty)
            world) := by
  constructor
  · intro config world consultations
    have missing : (Desk.opened { config with emptyIsMissing := true }
        world).resolver.config.emptyIsMissing = true := rfl
    exact Desk.consultAll_neverEmpty responder missing consultations
  · intro active text cursor world
    rw [Inquiry.run_revise]
    exact Inquiry.sameExchange_of_quiet (Hint.quiet_resolve_dropEmpty _ active).symm responder world

end ArgHints
