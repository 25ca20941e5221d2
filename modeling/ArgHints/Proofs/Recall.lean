import ArgHints.Proofs.Memo
import ArgHints.Recall
import Mathlib.Data.List.Basic

namespace ArgHints

variable {ε σ : Type} (responder : Responder ε σ) {memo : Memo} (world : σ)

namespace Memo

section

variable {search : Recall σ}

theorem recallOnce_of_asks (asks : Hint.Asks search.active search.snapshot memo) :
    (memo.recallOnce responder world search).run.asked = [search.token] ∧
      (memo.recallOnce responder world search).answer =
        (responder.lookup search.token (search.meanwhile world)).outcome := by
  rw [Recalled.answer, Memo.recallOnce, Hint.resolveCached_of_asks asks]
  simp only [Inquiry.run, Recall.token]
  cases (responder.lookup search.snapshot.token (search.meanwhile world)).outcome with
  | error failure => exact ⟨rfl, rfl⟩
  | ok doc => exact ⟨rfl, rfl⟩

theorem recallOnce_of_not_asks (still : ¬ Hint.Asks search.active search.snapshot memo) :
    (memo.recallOnce responder world search).run.asked = [] ∧
      ∃ doc, (memo.recallOnce responder world search).run.outcome = .ok (doc, memo) := by
  obtain ⟨events, doc, found⟩ := Hint.resolveCached_of_not_asks still
  rw [Memo.recallOnce, found, Inquiry.run_noteAll]
  exact ⟨rfl, doc, rfl⟩

theorem after_recallOnce_of_not_asks (still : ¬ Hint.Asks search.active search.snapshot memo) :
    (memo.recallOnce responder world search).after = memo := by
  obtain ⟨-, doc, found⟩ := recallOnce_of_not_asks responder world still
  rw [Recalled.after, found]

theorem answer_of_entry {entry : Entry} (active : search.active = true)
    (named : search.token ≠ "") (held : memo.entry = some entry)
    (same : entry.name = search.token) :
    (memo.recallOnce responder world search).answer = .ok entry.doc := by
  rw [Recalled.answer, Memo.recallOnce, active, Hint.resolveCached_of_entry named held same]
  rfl

theorem answer_of_idle (idle : search.active = false ∨ search.token = "") :
    (memo.recallOnce responder world search).answer = .ok none := by
  rw [Recalled.answer, Memo.recallOnce, Hint.resolveCached_of_idle idle]
  rfl

theorem memo_of_error {failure : ε}
    (failed : (memo.recallOnce responder world search).answer = .error failure) :
    Hint.Asks search.active search.snapshot memo ∧
      (memo.recallOnce responder world search).after = memo := by
  cases outcome : (memo.recallOnce responder world search).run.outcome with
  | ok found => simp [Recalled.answer, outcome, Except.map] at failed
  | error failure =>
      refine ⟨Classical.byContradiction fun still => ?_, by rw [Recalled.after, outcome]; rfl⟩
      obtain ⟨-, doc, found⟩ := recallOnce_of_not_asks responder world still
      rw [outcome] at found
      cases found

theorem entry_after_recallOnce (search : Recall σ) :
    (memo.recallOnce responder world search).after.entry =
      ((memo.recallOnce responder world search).answered? responder).or memo.entry := by
  by_cases asks : Hint.Asks search.active search.snapshot memo
  · rw [Memo.recallOnce, Hint.resolveCached_of_asks asks]
    simp only [Recalled.after, Recalled.answered?, Inquiry.run]
    cases answered :
        (responder.lookup search.snapshot.token (search.meanwhile world)).outcome with
    | error failure => simp [answered, Except.toOption]
    | ok doc => simp [answered, Except.toOption, Memo.store]
  · rw [after_recallOnce_of_not_asks responder world asks, Recalled.answered?,
      (recallOnce_of_not_asks responder world asks).1]
    rfl

theorem token_of_answered {entry : Entry}
    (answered : (memo.recallOnce responder world search).answered? responder = some entry) :
    search.active = true ∧ search.token = entry.name := by
  by_cases asks : Hint.Asks search.active search.snapshot memo
  · rw [Recalled.answered?, (recallOnce_of_asks responder world asks).1] at answered
    obtain ⟨doc, -, rfl⟩ := Option.map_eq_some_iff.mp answered
    exact ⟨asks.active, rfl⟩
  · rw [Recalled.answered?, (recallOnce_of_not_asks responder world asks).1] at answered
    cases answered

end

variable {responder world}

theorem recallAll_split {recalls : List (Recall σ)} {earlier later : List (Recalled ε σ)}
    {recalled : Recalled ε σ}
    (here : memo.recallAll responder world recalls = earlier ++ recalled :: later) :
    recalled.memo.entry =
        (earlier.filterMap (Recalled.answered? responder)).getLast?.or memo.entry ∧
      (∃ world, recalled = recalled.memo.recallOnce responder world recalled.search) ∧
      ∃ recalls, later = recalled.after.recallAll responder recalled.run.state recalls := by
  induction recalls generalizing memo world earlier with
  | nil => simp [recallAll] at here
  | cons search recalls ih =>
      rw [recallAll] at here
      cases earlier with
      | nil =>
          obtain ⟨rfl, rfl⟩ := List.cons_eq_cons.mp here
          exact ⟨rfl, ⟨world, rfl⟩, recalls, rfl⟩
      | cons first earlier =>
          obtain ⟨rfl, tail⟩ := List.cons_eq_cons.mp here
          obtain ⟨entry, done, rest⟩ := ih tail
          refine ⟨?_, done, rest⟩
          rw [entry, entry_after_recallOnce responder world search, ← Option.or_assoc,
            List.filterMap_cons]
          cases answered : (memo.recallOnce responder world search).answered? responder with
          | none => rw [Option.or_none]
          | some last => simp [List.getLast?_cons]

theorem recallAll_asks_again {recalls : List (Recall σ)} {between later : List (Recalled ε σ)}
    {next : Recalled ε σ} {name : String} (other : ∀ entry ∈ memo.entry, entry.name ≠ name)
    (here : memo.recallAll responder world recalls = between ++ next :: later)
    (unsought : ∀ recalled ∈ between,
      recalled.search.active = true → recalled.search.token ≠ name)
    (active : next.search.active = true) (named : name ≠ "") (same : next.search.token = name) :
    next.run.asked = [name] := by
  obtain ⟨entry, ⟨_, done⟩, -⟩ := recallAll_split here
  have asks : Hint.Asks next.search.active next.search.snapshot next.memo := by
    refine ⟨active, fun empty => named (same.symm.trans empty), fun held member taken => ?_⟩
    rw [Option.mem_def, entry, Option.or_eq_some_iff] at member
    rcases member with last | ⟨-, kept⟩
    · obtain ⟨recalled, among, answered⟩ :=
        List.mem_filterMap.mp (List.mem_of_getLast? last)
      obtain ⟨before, after, rfl⟩ := List.append_of_mem among
      rw [List.append_assoc] at here
      obtain ⟨-, ⟨_, done⟩, -⟩ := recallAll_split here
      rw [done] at answered
      obtain ⟨active, token⟩ := token_of_answered responder _ answered
      exact unsought recalled among active (token.trans (taken.trans same))
    · exact other held kept (taken.trans same)
  rw [done, (recallOnce_of_asks responder _ asks).1, same]

/-- With a memo that is empty at first, the entry is the last lookup that was answered, before each
recall and after it. A recall asks exactly if an interpreter is active and the memo is for another
name than the one at the cursor, and then only for that one; otherwise the memo answers or there is
no name to ask for. A lookup that fails leaves the memo as it was, and the name is asked for when it
is next at the cursor. -/
theorem recallAll_keeps_last_answer (responder : Responder ε σ) (world : σ)
    (recalls : List (Recall σ)) {earlier later : List (Recalled ε σ)} {recalled : Recalled ε σ}
    (here : empty.recallAll responder world recalls = earlier ++ recalled :: later) :
    let search := recalled.search
    recalled.memo.entry = (earlier.filterMap (Recalled.answered? responder)).getLast? ∧
      recalled.after.entry =
        ((earlier ++ [recalled]).filterMap (Recalled.answered? responder)).getLast? ∧
      (Hint.Asks search.active search.snapshot recalled.memo →
        recalled.run.asked = [search.token] ∧
          recalled.answer = (responder.lookup search.token recalled.world).outcome) ∧
      (¬ Hint.Asks search.active search.snapshot recalled.memo →
        recalled.run.asked = [] ∧ recalled.after = recalled.memo) ∧
      (search.active = true → search.token ≠ "" → ∀ entry ∈ recalled.memo.entry,
        entry.name = search.token → recalled.answer = .ok entry.doc) ∧
      (search.active = false ∨ search.token = "" → recalled.answer = .ok none) ∧
      ∀ failure, recalled.answer = .error failure → recalled.after = recalled.memo ∧
        ∀ between next rest, later = between ++ next :: rest →
          (∀ other ∈ between, other.search.active = true → other.search.token ≠ search.token) →
          next.search.active = true → next.search.token = search.token →
          next.run.asked = [search.token] := by
  obtain ⟨entry, ⟨before, done⟩, remaining, continued⟩ := recallAll_split here
  rw [show empty.entry = none from rfl, Option.or_none] at entry
  have after : recalled.after.entry =
      (recalled.answered? responder).or recalled.memo.entry := by
    rw [done]
    exact entry_after_recallOnce responder before recalled.search
  intro search
  refine ⟨entry, ?_, fun asks => ?_, fun still => ?_, fun active named held member same => ?_,
    fun idle => ?_, fun failure failed => ?_⟩
  · rw [after, entry, List.filterMap_append, List.getLast?_append]
    cases answered : recalled.answered? responder <;> simp [answered]
  · have found := recallOnce_of_asks responder before asks
    rw [← done] at found
    refine ⟨found.1, found.2.trans ?_⟩
    rw [done]
    rfl
  · have found := recallOnce_of_not_asks responder before still
    have kept := after_recallOnce_of_not_asks responder before still
    rw [← done] at found kept
    exact ⟨found.1, kept⟩
  · rw [done]
    exact answer_of_entry responder before active named member same
  · rw [done]
    exact answer_of_idle responder before idle
  · rw [done] at failed
    obtain ⟨asks, kept⟩ := memo_of_error responder before failed
    rw [← done] at kept
    refine ⟨kept, fun between next rest same unsought active again => ?_⟩
    rw [continued, kept] at same
    exact recallAll_asks_again asks.other same unsought active asks.named again

theorem recall_after_failure :
    let responder : Responder Unit (Except Unit (Option String)) :=
      ⟨fun _ => true, fun _ found => ⟨[], found, found⟩⟩
    let seeing (found : Except Unit (Option String)) : Recall (Except Unit (Option String)) :=
      ⟨fun _ => found, true, "f(x)".toList, 0⟩
    let first := empty.recallOnce responder (.ok none) (seeing (.error ()))
    let second := first.after.recallOnce responder first.run.state (seeing (.ok (some "x")))
    let third := second.after.recallOnce responder second.run.state (seeing (.ok none))
    empty.recallAll responder (.ok none)
        [seeing (.error ()), seeing (.ok (some "x")), seeing (.ok none)] =
        [] ++ first :: [second, third] ∧
      first.answer = .error () ∧ first.after = first.memo ∧ second.run.asked = ["f"] ∧
      third.run.asked = [] ∧ third.answer = .ok (some "x") := by
  intro responder seeing first second third
  have here : empty.recallAll responder (.ok none)
      [seeing (.error ()), seeing (.ok (some "x")), seeing (.ok none)] =
        [] ++ first :: [second, third] := rfl
  have failed : first.answer = .error () := by decide +kernel
  obtain ⟨-, -, -, -, -, -, after⟩ := recallAll_keeps_last_answer responder (.ok none) _ here
  obtain ⟨kept, again⟩ := after () failed
  have token : first.search.token = "f" := by decide +kernel
  have token' : second.search.token = "f" := by decide +kernel
  have asked := again [] second [third] rfl (by simp) rfl (token'.trans token.symm)
  rw [token] at asked
  exact ⟨here, failed, kept, asked, by decide +kernel, by decide +kernel⟩

end Memo

end ArgHints
