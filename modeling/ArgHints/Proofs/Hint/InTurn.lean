import ArgHints.Proofs.Resolver.Bound
import ArgHints.Proofs.Resolver.Strategies

namespace ArgHints

variable {ε σ : Type}

def Snapshot.candidates (snapshot : Snapshot) : List String :=
  (if snapshot.token = "" then [] else [snapshot.token]) ++ snapshot.call?.toList

def Hint.Counts (emptyIsMissing : Bool) (doc : Option String) : Prop :=
  doc ≠ none ∧ (emptyIsMissing = true → doc ≠ some "")

instance (emptyIsMissing : Bool) : DecidablePred (Hint.Counts emptyIsMissing) :=
  fun _ => inferInstanceAs (Decidable (_ ∧ _))

/-- Looks up one name after another until a lookup fails or its answer counts. -/
def Responder.askInTurn (responder : Responder ε σ) (Counts : Option String → Prop)
    [DecidablePred Counts] : List String → σ → Run ε σ (Option String)
  | [], state => ⟨[], 0, [], .ok none, state⟩
  | name :: later, state =>
    let reply := responder.lookup name state
    match reply.outcome with
    | .error failure => ⟨[name], 0, reply.events, .error failure, reply.state⟩
    | .ok doc =>
      if Counts doc then ⟨[name], 0, reply.events, .ok doc, reply.state⟩
      else
        let rest := responder.askInTurn Counts later reply.state
        { rest with asked := name :: rest.asked, events := reply.events ++ rest.events }

namespace Hint

section

variable {emptyIsMissing : Bool} {doc : Option String} (name : String)

theorem ofDoc?_of_counts (counts : Counts emptyIsMissing doc) :
    ∃ hint, ofDoc? emptyIsMissing name doc = some hint ∧ doc = some hint.doc := by
  cases doc with
  | none => exact absurd rfl counts.1
  | some text =>
      have full : ¬ (emptyIsMissing && text.isEmpty) = true := by
        simpa using counts.2
      refine ⟨⟨name, text⟩, ?_, rfl⟩
      rw [ofDoc?, Option.bind_some, if_neg full]

theorem ofDoc?_of_not_counts (missing : ¬ Counts emptyIsMissing doc) :
    ofDoc? emptyIsMissing name doc = none := by
  cases doc with
  | none => rfl
  | some text =>
      have empty : (emptyIsMissing && text.isEmpty) = true := by
        simpa [Counts] using missing
      rw [ofDoc?, Option.bind_some, if_pos empty]

end

variable (emptyIsMissing : Bool) (snapshot : Snapshot) (responder : Responder ε σ) (state : σ)

theorem sameExchange_ofCall :
    (((ofCall emptyIsMissing snapshot).map (Option.map Hint.doc)).run responder
      state).SameExchange
      (responder.askInTurn (Counts emptyIsMissing) snapshot.call?.toList state) := by
  rw [Inquiry.run_map, ofCall, Inquiry.run_noteAll]
  cases snapshot.call? with
  | none => exact ⟨rfl, rfl, rfl, rfl⟩
  | some name =>
      simp only [Inquiry.run, Run.map, Option.toList_some, Responder.askInTurn]
      cases (responder.lookup name state).outcome with
      | error failure => exact ⟨rfl, rfl, rfl, rfl⟩
      | ok doc =>
          by_cases counts : Counts emptyIsMissing doc
          · obtain ⟨hint, found, rfl⟩ := ofDoc?_of_counts name counts
            simp only [if_pos counts, found]
            exact ⟨rfl, rfl, rfl, rfl⟩
          · simp only [if_neg counts, ofDoc?_of_not_counts name counts]
            exact ⟨rfl, rfl, rfl, rfl⟩

theorem sameExchange_find :
    (((find emptyIsMissing snapshot).map (Option.map Hint.doc)).run responder
      state).SameExchange
      (responder.askInTurn (Counts emptyIsMissing) snapshot.candidates state) := by
  by_cases named : snapshot.token = ""
  · rw [find_of_unnamed named, Snapshot.candidates, if_pos named, List.nil_append]
    exact sameExchange_ofCall emptyIsMissing snapshot responder state
  · rw [find_of_named named, Snapshot.candidates, if_neg named, List.singleton_append]
    simp only [Inquiry.map, Inquiry.run, Responder.askInTurn]
    cases (responder.lookup snapshot.token state).outcome with
    | error failure => exact ⟨rfl, rfl, rfl, rfl⟩
    | ok doc =>
        by_cases counts : Counts emptyIsMissing doc
        · obtain ⟨hint, found, rfl⟩ := ofDoc?_of_counts snapshot.token counts
          simp only [if_pos counts, found]
          exact ⟨rfl, rfl, rfl, rfl⟩
        · simp only [if_neg counts, ofDoc?_of_not_counts snapshot.token counts]
          have rest := sameExchange_ofCall emptyIsMissing snapshot responder
            (responder.lookup snapshot.token state).state
          exact ⟨congrArg (snapshot.token :: ·) rest.asked, rest.probes, rest.outcome, rest.state⟩

theorem sameExchange_resolve (active : Bool) :
    ((resolve emptyIsMissing active snapshot).run responder state).SameExchange
      (responder.askInTurn (Counts emptyIsMissing) (if active then snapshot.candidates else [])
        state) := by
  cases active with
  | false =>
      rw [resolve, if_neg Bool.false_ne_true, if_neg Bool.false_ne_true]
      exact ⟨rfl, rfl, rfl, rfl⟩
  | true =>
      rw [resolve, if_pos rfl, if_pos rfl]
      exact sameExchange_find emptyIsMissing snapshot responder state

end Hint

namespace Resolver

variable (resolver : Resolver) (snapshot : Snapshot) (caller : Option Memo) (told : Option Bool)
  (responder : Responder ε σ) (state : σ)

theorem run_provideFor :
    let run := (resolver.provideFor snapshot caller told).run responder state
    let search := (resolver.config.provide snapshot (caller.getD resolver.memo) told).run responder
      state
    run.asked = search.asked ∧ run.outcome.map Prod.fst = search.outcome.map Prod.fst := by
  intro run search
  cases caller with
  | some memo =>
      simp only [run, search, provideFor, Inquiry.run_map, Run.map, Option.getD_some, true_and]
      cases ((resolver.config.provide snapshot memo told).run responder state).outcome <;> rfl
  | none =>
      simp only [run, search, provideFor, provide, Inquiry.run_map, Run.map, Option.getD_none,
        true_and]
      cases ((resolver.config.provide snapshot resolver.memo told).run responder state).outcome <;>
        rfl

variable {resolver responder state told}

theorem provideFor_of_fallback (fallback : resolver.config.strategy = .fallback)
    (nameless : resolver.config.showName = false) :
    let run := (resolver.provideFor snapshot caller told).run responder state
    let search := (Hint.resolve resolver.config.emptyIsMissing
      (told.getD (responder.active state)) snapshot).run responder state
    run.asked = search.asked ∧ run.outcome.map Prod.fst = search.outcome := by
  intro run search
  obtain ⟨asked, outcome⟩ := resolver.run_provideFor snapshot caller told responder state
  obtain ⟨asked', outcome'⟩ := resolver.config.run_provide snapshot (caller.getD resolver.memo)
    responder state told
  rw [asked, outcome, asked', outcome']
  simp only [search]
  cases told.getD (responder.active state) with
  | false =>
      rw [Config.hintWhen, Hint.resolve, if_neg Bool.false_ne_true, if_neg Bool.false_ne_true]
      exact ⟨rfl, rfl⟩
  | true =>
      have shown : Hint.text false = Hint.doc := rfl
      rw [Config.hintWhen, if_pos rfl, (Config.run_hint_of_fallback fallback).1,
        (Config.run_hint_of_fallback fallback).2, nameless, shown, Hint.resolve, if_pos rfl]
      simp only [Inquiry.run_map, Run.map, and_self]

end Resolver

/-- A search asks for its candidates in turn while an interpreter is active, and for nothing while
none is. A resolver with the fallback strategy that does not show names asks for the same and shows
what is found. -/
theorem Hint.resolve_asks_in_turn (text : List Char) (cursor : Int) (emptyIsMissing : Bool)
    (responder : Responder ε σ) (state : σ) :
    let snapshot := Snapshot.ofCursor text cursor
    (∀ active : Bool,
      ((resolve emptyIsMissing active snapshot).run responder state).SameExchange
        (responder.askInTurn (Counts emptyIsMissing) (if active then snapshot.candidates else [])
          state)) ∧
      ∀ (config : Config) (own : Memo) (caller : Option Memo) (told : Option Bool),
        let resolver : Resolver :=
          ⟨{ config with strategy := .fallback, showName := false, emptyIsMissing }, own⟩
        let provided := (resolver.provideFor snapshot caller told).run responder state
        let resolved := (resolve emptyIsMissing (told.getD (responder.active state)) snapshot).run
          responder state
        provided.asked = resolved.asked ∧ provided.outcome.map Prod.fst = resolved.outcome := by
  intro snapshot
  refine ⟨sameExchange_resolve emptyIsMissing snapshot responder state, ?_⟩
  intro config own caller told resolver
  apply resolver.provideFor_of_fallback
  · rfl
  · rfl

end ArgHints
