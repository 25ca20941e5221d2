import ArgHints.Proofs.Inquiry
import ArgHints.Resolver

/-!
# Searches with a memo

A memo that agrees with the answers of a responder changes nothing about the outcome of a search:
the search asks for fewer names at most, and the memo that it leaves agrees again
(`Config.provide_matches`). What the answers depend on is left open, so long as the responder
answers a name the same way each time. With any responder, what a search leaves in the memo is the
name at the cursor with the answer that it got, or what was there before.
-/

namespace ArgHints

variable {α β ε σ : Type}

namespace Memo

def Agrees (answer : String → Except ε (Option String)) (memo : Memo) : Prop :=
  ∀ entry ∈ memo.entry, answer entry.name = .ok entry.doc

variable {answer : String → Except ε (Option String)}

theorem agrees_empty : empty.Agrees answer := by
  intro entry member
  cases member

theorem agrees_store (memo : Memo) {name : String} {doc : Option String}
    (answered : answer name = .ok doc) : (memo.store name doc).Agrees answer := by
  rintro entry ⟨⟩
  exact answered

theorem holds_iff (memo : Memo) (name : String) :
    memo.holds name = true ↔ ∃ entry ∈ memo.entry, entry.name = name := by
  simp [holds, Option.any_eq_true]

theorem fetch_of_entry {memo : Memo} {entry : Entry} (held : memo.entry = some entry) :
    memo.fetch entry.name = .note (.memoHit entry.name) (.done (entry.doc, memo)) := by
  rw [fetch, if_pos ((holds_iff memo entry.name).mpr ⟨entry, held, rfl⟩), held, Option.bind_some]

theorem fetch_of_ne {memo : Memo} {name : String}
    (other : ∀ entry ∈ memo.entry, entry.name ≠ name) :
    memo.fetch name = .ask name fun doc => .done (doc, memo.store name doc) := by
  rw [fetch, if_neg]
  rw [holds_iff]
  rintro ⟨entry, held, same⟩
  exact other entry held same

end Memo

/-! ## Two runs -/

namespace Run

/-- How a run with a memo compares with one without: it has the same outcome, asks for no other
names and leaves a memo that agrees with the answers. -/
structure Matches (answer : String → Except ε (Option String))
    (run plain : Run ε σ (α × Memo)) : Prop where
  outcome : run.outcome.map Prod.fst = plain.outcome.map Prod.fst
  asked : run.asked.Sublist plain.asked
  agrees : ∀ found memo, run.outcome = .ok (found, memo) → memo.Agrees answer

variable {answer : String → Except ε (Option String)} {run plain : Run ε σ (α × Memo)}

theorem Matches.map (same : run.Matches answer plain) {change : α × Memo → β × Memo} (f : α → β)
    (keeps : ∀ found, change found = (f found.1, found.2)) :
    (run.map change).Matches answer (plain.map change) where
  outcome := by
    have mapped (outcome : Except ε (α × Memo)) :
        (outcome.map change).map Prod.fst = (outcome.map Prod.fst).map f := by
      cases outcome with
      | error failure => rfl
      | ok found => simp only [Except.map, keeps]
    rw [Run.map, Run.map, mapped, mapped, same.outcome]
  asked := same.asked
  agrees := by
    intro found memo
    cases outcome : run.outcome with
    | error failure => simp [Run.map, outcome, Except.map]
    | ok answered =>
        simp only [Run.map, outcome, Except.map, keeps, Except.ok.injEq, Prod.mk.injEq]
        rintro ⟨-, rfl⟩
        exact same.agrees _ _ outcome

theorem matches_map_const (run : Run ε σ α) (f : α → β) {memo : Memo} (agrees : memo.Agrees answer)
    (memo' : Memo) :
    (run.map fun found => (f found, memo)).Matches answer
      (run.map fun found => (f found, memo')) where
  outcome := by cases outcome : run.outcome <;> simp [Run.map, outcome, Except.map]
  asked := List.Sublist.refl _
  agrees := by
    intro found left
    cases outcome : run.outcome with
    | error failure => simp [Run.map, outcome, Except.map]
    | ok answered =>
        simp only [Run.map, outcome, Except.map, Except.ok.injEq]
        rintro ⟨⟩
        exact agrees

end Run

/-! ## Searches -/

section

variable {answer : String → Except ε (Option String)} {responder : Responder ε σ} {memo : Memo}
  (answers : ∀ name state, (responder.lookup name state).outcome = answer name)
  (agrees : memo.Agrees answer)

include answers agrees

theorem Memo.fetch_matches (name : String) (state : σ) :
    ((memo.fetch name).run responder state).Matches answer
      ((empty.fetch name).run responder state) := by
  have plain : empty.fetch name = .ask name fun doc => .done (doc, empty.store name doc) :=
    fetch_of_ne (by rintro entry ⟨⟩)
  by_cases held : ∃ entry ∈ memo.entry, entry.name = name
  · obtain ⟨entry, member, rfl⟩ := held
    -- The memo holds what would be answered, and one question less is asked.
    have answered := (answers entry.name state).trans (agrees entry member)
    rw [fetch_of_entry member, plain]
    simp only [Inquiry.run, answered]
    exact ⟨rfl, List.nil_sublist _, by rintro found left ⟨⟩; exact agrees⟩
  · rw [fetch_of_ne fun entry member same => held ⟨entry, member, same⟩, plain]
    simp only [Inquiry.run]
    cases answered : (responder.lookup name state).outcome with
    | error failure => exact ⟨rfl, List.Sublist.refl _, by rintro found left ⟨⟩⟩
    | ok doc =>
        refine ⟨rfl, List.Sublist.refl _, ?_⟩
        rintro found left ⟨⟩
        exact memo.agrees_store ((answers name state).symm.trans answered)

theorem Hint.resolveCached_matches (active : Bool) (snapshot : Snapshot) (state : σ) :
    ((resolveCached active snapshot memo).run responder state).Matches answer
      ((resolveCached active snapshot .empty).run responder state) := by
  rw [resolveCached, resolveCached]
  split
  · exact Memo.fetch_matches answers agrees _ state
  · exact ⟨rfl, List.Sublist.refl _, by rintro found left ⟨⟩; exact agrees⟩

namespace Config

theorem hint_matches (config : Config) (snapshot : Snapshot) (state : σ) :
    ((config.hint snapshot memo).run responder state).Matches answer
      ((config.hint snapshot .empty).run responder state) := by
  cases strategy : config.strategy with
  | cached =>
      rw [hint, hint, strategy]
      simp only [Inquiry.run_map]
      exact (Hint.resolveCached_matches answers agrees true snapshot state).map
        (fun doc => (Hint.ofDoc? config.emptyIsMissing snapshot.token doc).map
          (Hint.text config.showName)) fun _ => rfl
  | fallback =>
      rw [hint, hint, strategy]
      simp only [Inquiry.run_map]
      exact Run.matches_map_const _ (Option.map (Hint.text config.showName)) agrees .empty

theorem hintWhen_matches (config : Config) (snapshot : Snapshot) (active : Bool) (state : σ) :
    ((config.hintWhen snapshot memo active).run responder state).Matches answer
      ((config.hintWhen snapshot .empty active).run responder state) := by
  cases active with
  | false =>
      rw [hintWhen, hintWhen, if_neg Bool.false_ne_true, if_neg Bool.false_ne_true]
      exact ⟨rfl, List.Sublist.refl _, by rintro found left ⟨⟩; exact agrees⟩
  | true =>
      rw [hintWhen, hintWhen, if_pos rfl, if_pos rfl]
      exact hint_matches answers agrees config snapshot state

theorem provide_matches (config : Config) (snapshot : Snapshot) (active : Option Bool) (state : σ) :
    ((config.provide snapshot memo active).run responder state).Matches answer
      ((config.provide snapshot .empty active).run responder state) := by
  cases active with
  | some active =>
      rw [provide, provide]
      exact hintWhen_matches answers agrees config snapshot active state
  | none =>
      have same := hintWhen_matches answers agrees config snapshot (responder.active state) state
      rw [provide, provide, Inquiry.run, Inquiry.run]
      exact ⟨same.outcome, same.asked, same.agrees⟩

end Config

end

/-! ## What is remembered -/

/-- Whether a search for the name at the cursor asks: only while an interpreter is active, and only
for a name that the memo is not for. -/
structure Hint.Asks (active : Bool) (snapshot : Snapshot) (memo : Memo) : Prop where
  active : active = true
  named : snapshot.token ≠ ""
  other : ∀ entry ∈ memo.entry, entry.name ≠ snapshot.token

namespace Hint

variable {active : Bool} {snapshot : Snapshot} {memo : Memo}

theorem resolveCached_of_asks (asks : Asks active snapshot memo) :
    resolveCached active snapshot memo =
      .ask snapshot.token fun doc => .done (doc, memo.store snapshot.token doc) := by
  have may : (active && !snapshot.token.isEmpty) = true := by simp [asks.active, asks.named]
  rw [resolveCached, if_pos may, Memo.fetch_of_ne asks.other]

theorem resolveCached_of_entry {entry : Memo.Entry} (named : snapshot.token ≠ "")
    (held : memo.entry = some entry) (same : entry.name = snapshot.token) :
    resolveCached true snapshot memo =
      .note (.memoHit snapshot.token) (.done (entry.doc, memo)) := by
  rw [resolveCached, if_pos (by simpa using named), ← same, Memo.fetch_of_entry held]

theorem resolveCached_of_idle (idle : active = false ∨ snapshot.token = "") :
    resolveCached active snapshot memo = .done (none, memo) := by
  rw [resolveCached, if_neg (by rcases idle with idle | idle <;> simp [idle])]

theorem resolveCached_of_not_asks (still : ¬ Asks active snapshot memo) :
    ∃ events doc, resolveCached active snapshot memo = .noteAll events (.done (doc, memo)) := by
  by_cases idle : active = false ∨ snapshot.token = ""
  · exact ⟨[], none, resolveCached_of_idle idle⟩
  · obtain ⟨isActive, named⟩ := not_or.mp idle
    obtain rfl : active = true := by simpa using isActive
    by_cases held : ∃ entry ∈ memo.entry, entry.name = snapshot.token
    · obtain ⟨entry, member, same⟩ := held
      exact ⟨[.memoHit snapshot.token], entry.doc, resolveCached_of_entry named member same⟩
    · exact absurd ⟨rfl, named, fun entry member same => held ⟨entry, member, same⟩⟩ still

end Hint

def Run.memoLeft (run : Run ε σ (α × Memo)) (memo : Memo) : Memo :=
  match run.outcome with
  | .ok found => found.2
  | .error _ => memo

theorem Run.Matches.agrees_memoLeft {answer : String → Except ε (Option String)}
    {run plain : Run ε σ (α × Memo)} (same : run.Matches answer plain) {memo : Memo}
    (agrees : memo.Agrees answer) : (run.memoLeft memo).Agrees answer := by
  rw [memoLeft]
  cases outcome : run.outcome with
  | error failure => exact agrees
  | ok found => exact same.agrees _ _ outcome

theorem Run.memoLeft_map {run : Run ε σ (α × Memo)} {change : α × Memo → β × Memo}
    (keeps : ∀ found, (change found).2 = found.2) (memo : Memo) :
    (run.map change).memoLeft memo = run.memoLeft memo := by
  cases outcome : run.outcome with
  | error failure => simp only [memoLeft, Run.map, outcome, Except.map]
  | ok found => simp only [memoLeft, Run.map, outcome, Except.map, keeps]

theorem Run.memoLeft_map_const (run : Run ε σ α) (f : α → β) (memo : Memo) :
    (run.map fun found => (f found, memo)).memoLeft memo = memo := by
  cases outcome : run.outcome with
  | error failure => simp only [memoLeft, Run.map, outcome, Except.map]
  | ok found => simp only [memoLeft, Run.map, outcome, Except.map]

section

variable {config : Config} {responder : Responder ε σ} {snapshot : Snapshot} {memo : Memo}
  {state : σ}

theorem Hint.memoLeft_resolveCached_of_not_asks {active : Bool}
    (still : ¬ Asks active snapshot memo) :
    ((resolveCached active snapshot memo).run responder state).memoLeft memo = memo := by
  obtain ⟨events, doc, found⟩ := resolveCached_of_not_asks still
  rw [found, Run.memoLeft, Inquiry.run_noteAll]
  rfl

theorem Hint.memoLeft_resolveCached_of_asks {active : Bool} (asks : Asks active snapshot memo) :
    ((resolveCached active snapshot memo).run responder state).memoLeft memo =
      match (responder.lookup snapshot.token state).outcome with
      | .ok doc => memo.store snapshot.token doc
      | .error _ => memo := by
  rw [resolveCached_of_asks asks, Run.memoLeft, Inquiry.run]
  cases (responder.lookup snapshot.token state).outcome <;> rfl

namespace Config

theorem memoLeft_hint_of_cached (cached : config.strategy = .cached) :
    ((config.hint snapshot memo).run responder state).memoLeft memo =
      ((Hint.resolveCached true snapshot memo).run responder state).memoLeft memo := by
  simp only [hint, cached, Inquiry.run_map]
  rw [Run.memoLeft_map]
  rintro ⟨doc, memo⟩
  rfl

theorem memoLeft_hint_of_fallback (fallback : config.strategy = .fallback) :
    ((config.hint snapshot memo).run responder state).memoLeft memo = memo := by
  simp only [hint, fallback, Inquiry.run_map]
  exact Run.memoLeft_map_const _ _ memo

theorem memoLeft_provide (active : Option Bool) :
    ((config.provide snapshot memo active).run responder state).memoLeft memo =
      ((config.hintWhen snapshot memo (active.getD (responder.active state))).run
        responder state).memoLeft memo := by
  cases active <;> rfl

theorem memoLeft_provide_of_asks {active : Option Bool} {doc : Option String}
    (cached : config.strategy = .cached)
    (asks : Hint.Asks (active.getD (responder.active state)) snapshot memo)
    (answered : (responder.lookup snapshot.token state).outcome = .ok doc) :
    ((config.provide snapshot memo active).run responder state).memoLeft memo =
      memo.store snapshot.token doc := by
  rw [memoLeft_provide, hintWhen, if_pos asks.active, memoLeft_hint_of_cached cached,
    ← asks.active, Hint.memoLeft_resolveCached_of_asks asks, answered]

theorem memoLeft_provide_of_not {active : Option Bool}
    (still : config.strategy = .cached →
      Hint.Asks (active.getD (responder.active state)) snapshot memo →
        ∀ doc, (responder.lookup snapshot.token state).outcome ≠ .ok doc) :
    ((config.provide snapshot memo active).run responder state).memoLeft memo = memo := by
  rw [memoLeft_provide, hintWhen]
  split
  case isFalse => rfl
  case isTrue isActive =>
    cases strategy : config.strategy with
    | fallback => exact memoLeft_hint_of_fallback strategy
    | cached =>
        rw [memoLeft_hint_of_cached strategy, ← isActive]
        by_cases asks : Hint.Asks (active.getD (responder.active state)) snapshot memo
        · rw [Hint.memoLeft_resolveCached_of_asks asks]
          cases answered : (responder.lookup snapshot.token state).outcome with
          | error failure => rfl
          | ok doc => exact absurd answered (still strategy asks doc)
        · exact Hint.memoLeft_resolveCached_of_not_asks asks

end Config

end

end ArgHints
