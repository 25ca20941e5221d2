import ArgHints.Proofs.Bracket.Enclosing

namespace ArgHints

namespace Bracket

theorem climb_append {pending : List Kind} {brackets : List Placed} (earlier : List Placed)
    (ends : climb pending brackets ≠ .topLevel) :
    climb pending (brackets ++ earlier) = climb pending brackets := by
  fun_induction climb pending brackets with
  | case1 => exact absurd rfl ends
  | case2 pending offset kind rest ih =>
      rw [List.cons_append, climb]
      exact ih ends
  | case3 offset kind rest => rfl
  | case4 offset kind rest pending ih =>
      rw [List.cons_append, climb, if_pos rfl]
      exact ih ends
  | case5 offset kind rest awaited pending other => rw [List.cons_append, climb, if_neg other]

theorem ascend_append {front rest : List Char} {cursor : Nat} (code : Mode.after front = .code)
    (ends : ascend rest cursor ≠ .topLevel) :
    ascend (front ++ rest) (front.length + cursor) =
      (ascend rest cursor).relocate (front.length + ·) := by
  rw [ascend, before_eq] at ends
  have moved : climb [] ((codeBrackets rest 0 cursor).reverse.map
      (Placed.relocate (front.length + ·))) ≠ .topLevel := by
    rw [climb_relocate]
    cases found : climb [] (codeBrackets rest 0 cursor).reverse with
    | topLevel => exact absurd found ends
    | enclosed offset => simp [Ascent.relocate]
    | unbalanced offset kind => simp [Ascent.relocate]
  rw [ascend, before_eq, codeBrackets_append_text code, List.reverse_append, ← List.map_reverse,
    climb_append _ moved, climb_relocate, ascend, before_eq]

theorem ascend_eq_enclosed_iff {text : List Char} {cursor opener : Nat} :
    ascend text cursor = .enclosed opener ↔ enclosing? text cursor = some opener := by
  rw [enclosing?]
  cases ascend text cursor <;> simp [Ascent.offset?]

theorem enclosing?_append {front rest : List Char} {cursor opener : Nat}
    (code : Mode.after front = .code) (found : enclosing? rest cursor = some opener) :
    enclosing? (front ++ rest) (front.length + cursor) = some (front.length + opener) := by
  rw [← ascend_eq_enclosed_iff] at found ⊢
  rw [ascend_append code (by simp [found]), found, Ascent.relocate]

end Bracket

namespace Snapshot

open ArgHints.Bracket

theorem call?_append {front rest : List Char} {cursor opener : Nat}
    (code : Mode.after front = .code) (found : enclosing? rest cursor = some opener)
    (stop : ∀ c ∈ front.getLast?, Text.isNameChar c = false) :
    (ofCursor (front ++ rest) (front.length + cursor : Nat)).call? =
      (ofCursor rest cursor).call? := by
  rw [call?_ofCursor, call?_ofCursor, enclosing?_append code found, found]
  simp only [Option.bind_some, Text.nameBefore_append rest opener stop]

/-- Code in front of a text changes nothing about a search that ends inside the text: it finds the
same bracket, and the same call or the lack of one unless a name reaches into the text, or it gives
up at the same bracket of the wrong kind. -/
theorem call?_ignores_code_in_front (front rest : List Char) (cursor : Nat)
    (code : Mode.after front = .code) :
    (∀ opener, (ofCursor rest cursor).ascent.offset? = some opener →
      (ofCursor (front ++ rest) (front.length + cursor : Nat)).ascent.offset? =
          some (front.length + opener) ∧
        ((∀ c ∈ front.getLast?, Text.isNameChar c = false) →
          (ofCursor (front ++ rest) (front.length + cursor : Nat)).call? =
            (ofCursor rest cursor).call?)) ∧
    ∀ offset kind, (ofCursor rest cursor).ascent = .unbalanced offset kind →
      (ofCursor (front ++ rest) (front.length + cursor : Nat)).ascent =
        .unbalanced (front.length + offset) kind := by
  simp only [ascent_ofCursor]
  refine ⟨?_, ?_⟩
  · intro opener found
    exact ⟨enclosing?_append code found, call?_append code found⟩
  · intro offset kind unbalanced
    rw [ascend_append code (by simp [unbalanced]), unbalanced, Ascent.relocate]

theorem call?_ignores_stray_brackets :
    Mode.after "x) ]\n".toList = .code ∧
      (ofCursor "f(g[1], ".toList (8 : Nat)).ascent.offset? = some 1 ∧
      (ofCursor ("x) ]\n".toList ++ "f(g[1], ".toList) (5 + 8 : Nat)).ascent.offset? =
        some (5 + 1) ∧
      (ofCursor ("x) ]\n".toList ++ "f(g[1], ".toList) (5 + 8 : Nat)).call? = some "f" ∧
      (ofCursor "f(x]".toList (4 : Nat)).ascent = .unbalanced 1 .round ∧
      (ofCursor ("x) ]\n".toList ++ "f(x]".toList) (5 + 4 : Nat)).ascent =
        .unbalanced (5 + 1) .round := by
  have code : Mode.after "x) ]\n".toList = .code := by decide
  have found : (ofCursor "f(g[1], ".toList (8 : Nat)).ascent.offset? = some 1 := by
    rw [ascent_ofCursor, ascend, before_eq]
    decide
  have call : (ofCursor "f(g[1], ".toList (8 : Nat)).call? = some "f" := by
    rw [call?_ofCursor, enclosing?_eq_head?]
    decide
  have stop : ∀ c ∈ "x) ]\n".toList.getLast?, Text.isNameChar c = false := by
    rintro c ⟨⟩
    rfl
  have unbalanced : (ofCursor "f(x]".toList (4 : Nat)).ascent = .unbalanced 1 .round := by
    rw [ascent_ofCursor, ascend, before_eq]
    decide
  obtain ⟨same, sameCall⟩ :=
    (call?_ignores_code_in_front "x) ]\n".toList "f(g[1], ".toList 8 code).1 1 found
  exact ⟨code, found, same, (sameCall stop).trans call, unbalanced,
    (call?_ignores_code_in_front "x) ]\n".toList "f(x]".toList 4 code).2 1 .round unbalanced⟩

end Snapshot

end ArgHints
