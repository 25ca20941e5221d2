import ArgHints.Proofs.Bracket.Hidden
import ArgHints.Proofs.Hint
import ArgHints.Proofs.Text.Name

namespace ArgHints

namespace Text

structure EndsAt (text : List Char) (offset : Nat) (name : List Char) : Prop where
  named : ∀ c ∈ name, isNameChar c = true
  longest : ∃ front, text.take offset = front ++ name ∧
    ∀ c ∈ front.getLast?, isNameChar c = false

theorem endsAt_iff {text name : List Char} {offset : Nat} :
    EndsAt text offset name ↔ nameBefore text offset = name := by
  constructor
  · rintro ⟨named, front, split, stop⟩
    have whole : name.rtakeWhile isNameChar = name := List.rtakeWhile_eq_self_iff.mpr named
    rw [nameBefore, split]
    rcases List.eq_nil_or_concat front with rfl | ⟨start, last, rfl⟩
    · exact whole
    · rw [List.concat_eq_append] at stop ⊢
      rw [rtakeWhile_append_concat (stop last (by simp)), whole]
  · rintro rfl
    refine ⟨fun c => mem_nameBefore, (text.take offset).rdropWhile isNameChar, ?_, ?_⟩
    · exact List.rdropWhile_append_rtakeWhile.symm
    · exact fun c last => not_of_mem_getLast?_rdropWhile last

theorem nameBefore_congr {text text' : List Char} {offset : Nat}
    (same : text.take offset = text'.take offset) :
    nameBefore text offset = nameBefore text' offset := by
  rw [nameBefore, same, nameBefore]

theorem nameAt_append {front rest : List Char} {offset : Nat} (le : offset ≤ front.length)
    (named : ∀ c ∈ front.drop offset, isNameChar c = true)
    (stop : ∀ c ∈ rest.head?, isNameChar c = false) :
    nameAt (front ++ rest) offset = nameBefore front offset ++ front.drop offset := by
  have ends : rest.takeWhile isNameChar = [] := by
    cases rest with
    | nil => rfl
    | cons c rest => exact List.takeWhile_cons_of_neg (by simp [stop c rfl])
  rw [nameAt_eq, nameBefore_append_left rest le, List.drop_append_of_le_length le,
    List.takeWhile_append_of_pos named, ends, List.append_nil]

end Text

namespace Bracket

theorem Mode.eq_code_of_next {mode : Mode} {c : Char} (named : Text.isNameChar c = true)
    (code : mode.next c = .code) : mode = .code := by
  -- Only the closing delimiters lead to plain code from elsewhere.
  have other (cover : Cover) : c ≠ cover.closer := by
    rintro rfl
    rw [cover.isNameChar_closer] at named
    cases named
  cases mode with
  | code => rfl
  | literal quote =>
      have inside : (c == quote.toChar) = false := beq_eq_false_iff_ne.mpr (other (.literal quote))
      simp only [next, inside] at code
      split at code <;> cases code
  | escaped quote => cases code
  | comment =>
      have inside : (c == '\n') = false := beq_eq_false_iff_ne.mpr (other .comment)
      simp [next, inside] at code

theorem Mode.eq_code_of_foldl_next {name : List Char} {mode : Mode}
    (named : ∀ c ∈ name, Text.isNameChar c = true) (code : name.foldl next mode = .code) :
    mode = .code := by
  induction name generalizing mode with
  | nil => exact code
  | cons c name ih =>
      rw [List.forall_mem_cons] at named
      exact eq_code_of_next named.1 (ih named.2 code)

theorem Mode.isCodeAt_of_endsAt {text name : List Char} {offset start : Nat}
    (ends : Text.EndsAt text offset name) (code : IsCodeAt text offset)
    (low : offset ≤ start + name.length) (high : start ≤ offset) : IsCodeAt text start := by
  obtain ⟨named, front, split, -⟩ := ends
  have lengths := congrArg List.length split
  rw [List.length_take, List.length_append] at lengths
  have cut := List.take_append_drop start (text.take offset)
  rw [List.take_take, Nat.min_eq_left high] at cut
  have behind : ∀ c ∈ (text.take offset).drop start, Text.isNameChar c = true := by
    intro c member
    rw [split, List.drop_append, List.drop_eq_nil_of_le (by omega), List.nil_append] at member
    exact named c (List.mem_of_mem_drop member)
  rw [IsCodeAt, ← cut, after_append] at code
  exact eq_code_of_foldl_next behind code

theorem ascend_congr {text text' : List Char} {cursor : Nat}
    (same : text.take cursor = text'.take cursor) : ascend text cursor = ascend text' cursor := by
  rw [ascend, before, same, ← before, ascend]

end Bracket

namespace Snapshot

open ArgHints.Bracket

theorem ofCursor_toNat (text : List Char) (cursor : Int) :
    ofCursor text cursor = ofCursor text (cursor.toNat : Nat) := rfl

theorem call?_eq_some_iff {snapshot : Snapshot} {name : String} :
    snapshot.call? = some name ↔ ∃ opener, snapshot.ascent.offset? = some opener ∧ name ≠ "" ∧
      Text.EndsAt snapshot.text opener name.toList := by
  constructor
  · intro called
    obtain ⟨opener, found, before, named⟩ := opener_of_call? called
    exact ⟨opener, found, named, Text.endsAt_iff.mpr before.symm⟩
  · rintro ⟨opener, found, named, ends⟩
    have before : Text.nameAt snapshot.text opener = name.toList :=
      (nameAt_of_enclosing? found).trans (Text.endsAt_iff.mp ends)
    rw [call?, found, Option.bind_some, before]
    simpa using named

theorem isCodeAt_of_call? {snapshot : Snapshot} {name : String} {opener : Nat}
    (called : snapshot.call? = some name) (found : snapshot.ascent.offset? = some opener)
    {offset : Nat} (low : opener ≤ offset + name.length) (high : offset ≤ opener) :
    Mode.IsCodeAt snapshot.text offset := by
  obtain ⟨opener', found', -, ends⟩ := call?_eq_some_iff.mp called
  obtain rfl := Option.some.inj (found.symm.trans found')
  obtain ⟨kind, stands, -⟩ := openStack_of_enclosing? found
  exact Mode.isCodeAt_of_endsAt ends stands.1 low high

section

variable {text text' : List Char} {cursor : Int}
  (same : text.take cursor.toNat = text'.take cursor.toNat)

include same

theorem ascent_congr : (ofCursor text cursor).ascent = (ofCursor text' cursor).ascent := by
  rw [ofCursor_toNat, ascent_ofCursor, ascend_congr same, ← ascent_ofCursor, ← ofCursor_toNat]

theorem call?_congr : (ofCursor text cursor).call? = (ofCursor text' cursor).call? := by
  rw [ofCursor_toNat, ofCursor_toNat text', call?_ofCursor, call?_ofCursor, enclosing?,
    ascend_congr same, ← enclosing?]
  apply Option.bind_congr
  intro opener found
  -- The bracket stands before the cursor, and so does all that is in front of it.
  have before : text.take opener = text'.take opener := by
    have le := Nat.le_of_lt (enclosing?_lt found)
    rw [← Nat.min_eq_left le, ← List.take_take, same, List.take_take]
  rw [Text.nameBefore_congr before]

end

end Snapshot

namespace Hint

theorem resolve_append {front rest rest' : List Char} {cursor : Int} {ε σ : Type}
    (le : cursor ≤ front.length) (named : ∀ c ∈ front.drop cursor.toNat, Text.isNameChar c = true)
    (stop : ∀ c ∈ rest.head?, Text.isNameChar c = false)
    (stop' : ∀ c ∈ rest'.head?, Text.isNameChar c = false) (emptyIsMissing active : Bool)
    (responder : Responder ε σ) (state : σ) :
    ((resolve emptyIsMissing active (.ofCursor (front ++ rest) cursor)).run responder
      state).SameExchange
      ((resolve emptyIsMissing active (.ofCursor (front ++ rest') cursor)).run responder
        state) := by
  have within : cursor.toNat ≤ front.length := by omega
  apply resolve_sameExchange
  · rw [Snapshot.ofCursor_toNat, Snapshot.token_ofCursor, Text.nameAt_append within named stop,
      Snapshot.ofCursor_toNat (front ++ rest'), Snapshot.token_ofCursor,
      Text.nameAt_append within named stop']
  · apply Snapshot.call?_congr
    rw [List.take_append_of_le_length within, List.take_append_of_le_length within]

/-- The call that encloses a cursor is the longest name in front of the enclosing bracket, where
that is not empty, and all of it is plain code. What stands behind the cursor makes no difference to
the bracket and the call, and what stands behind the name at the cursor makes none to a search. -/
theorem call?_in_front_of_cursor :
    (∀ (text : List Char) (cursor : Int) (name : String),
      (Snapshot.ofCursor text cursor).call? = some name ↔ ∃ opener,
        (Snapshot.ofCursor text cursor).ascent.offset? = some opener ∧ name ≠ "" ∧
          Text.EndsAt text opener name.toList) ∧
    (∀ (text : List Char) (cursor : Int) (name : String) (opener : Nat),
      (Snapshot.ofCursor text cursor).call? = some name →
      (Snapshot.ofCursor text cursor).ascent.offset? = some opener →
      ∀ offset, opener ≤ offset + name.length → offset ≤ opener →
        Bracket.Mode.IsCodeAt text offset) ∧
    (∀ (text text' : List Char) (cursor : Int),
      text.take cursor.toNat = text'.take cursor.toNat →
      (Snapshot.ofCursor text cursor).ascent = (Snapshot.ofCursor text' cursor).ascent ∧
        (Snapshot.ofCursor text cursor).call? = (Snapshot.ofCursor text' cursor).call?) ∧
    ∀ (front rest rest' : List Char) (cursor : Int), cursor ≤ front.length →
      (∀ c ∈ front.drop cursor.toNat, Text.isNameChar c = true) →
      (∀ c ∈ rest.head?, Text.isNameChar c = false) →
      (∀ c ∈ rest'.head?, Text.isNameChar c = false) →
      ∀ (ε σ : Type) (responder : Responder ε σ) (state : σ) (emptyIsMissing active : Bool),
        ((resolve emptyIsMissing active (.ofCursor (front ++ rest) cursor)).run responder
          state).SameExchange
          ((resolve emptyIsMissing active (.ofCursor (front ++ rest') cursor)).run responder
            state) := by
  refine ⟨?_, ?_, ?_, ?_⟩
  · intro text cursor name
    exact Snapshot.call?_eq_some_iff
  · intro text cursor name opener called found offset low high
    exact Snapshot.isCodeAt_of_call? called found low high
  · intro text text' cursor same
    exact ⟨Snapshot.ascent_congr same, Snapshot.call?_congr same⟩
  · intro front rest rest' cursor le named stop stop' ε σ responder state emptyIsMissing active
    exact resolve_append le named stop stop' emptyIsMissing active responder state

theorem call?_in_front_of_open_string :
    let text := "x <- stats::sd(\"f(\", ab, 'g(".toList
    let text' := "x <- stats::sd(\"f(\", ab)".toList
    let responder : Responder Unit Nat := ⟨fun _ => true, fun _ n => ⟨[], .ok none, n + 1⟩⟩
    (Snapshot.ofCursor text (23 : Nat)).call? = some "stats::sd" ∧
      (Snapshot.ofCursor text (23 : Nat)).ascent.offset? = some 14 ∧
      Text.EndsAt text 14 "stats::sd".toList ∧
      14 ≤ 5 + "stats::sd".length ∧ 5 ≤ 14 ∧ Bracket.Mode.IsCodeAt text 5 ∧
      text.take 23 = text'.take 23 ∧
      (Snapshot.ofCursor text' (23 : Nat)).call? = some "stats::sd" ∧
      text = text.take 23 ++ ", 'g(".toList ∧ text' = text.take 23 ++ [')'] ∧
      ((22 : Nat) : Int) ≤ (text.take 23).length ∧
      (∀ c ∈ (text.take 23).drop 22, Text.isNameChar c = true) ∧
      ((resolve false true (.ofCursor (text.take 23 ++ ", 'g(".toList) (22 : Nat))).run responder
        0).SameExchange
        ((resolve false true (.ofCursor (text.take 23 ++ [')']) (22 : Nat))).run responder 0) := by
  intro text text' responder
  obtain ⟨named, code, front, whole⟩ := call?_in_front_of_cursor
  have found : (Snapshot.ofCursor text (23 : Nat)).ascent.offset? = some 14 := by
    rw [Snapshot.ascent_ofCursor, ← Bracket.enclosing?, Bracket.enclosing?_eq_head?]
    decide
  have ends : Text.EndsAt text 14 "stats::sd".toList := Text.endsAt_iff.mpr (by decide)
  have call : (Snapshot.ofCursor text (23 : Nat)).call? = some "stats::sd" :=
    (named text (23 : Nat) "stats::sd").mpr ⟨14, found, by decide, ends⟩
  have same : text.take 23 = text'.take 23 := by decide
  have behind : ∀ c ∈ (text.take 23).drop 22, Text.isNameChar c = true := by
    have all : ((text.take 23).drop 22).all Text.isNameChar = true := by decide
    exact List.all_eq_true.mp all
  have exchange := whole (text.take 23) ", 'g(".toList [')'] (22 : Nat) (by decide) behind
    (by rintro c ⟨⟩; rfl) (by rintro c ⟨⟩; rfl) Unit Nat responder 0 false true
  exact ⟨call, found, ends, by decide, by decide,
    code text (23 : Nat) "stats::sd" 14 call found 5 (by decide) (by decide), same,
    (front text text' (23 : Nat) same).2.symm.trans call, by decide, by decide, by decide, behind,
    exchange⟩

end Hint

end ArgHints
