import ArgHints.Proofs.Text.Line
import ArgHints.Proofs.Text.Name

namespace ArgHints.Text

def returned (chosen : Bool) (c : Char) : List Char :=
  if chosen && c == '\n' then ['\r', c] else [c]

/-- A text in which the newlines at the chosen offsets have a carriage return in front of them. -/
def withReturns (chosen : Nat → Bool) : List Char → List Char
  | [] => []
  | c :: rest => returned (chosen 0) c ++ withReturns (fun offset => chosen (offset + 1)) rest

theorem returned_of_ne (chosen : Bool) {c : Char} (other : c ≠ '\n') : returned chosen c = [c] := by
  simp [returned, other]

theorem returned_cases (chosen : Bool) (c : Char) :
    returned chosen c = [c] ∨ c = '\n' ∧ returned chosen c = ['\r', '\n'] := by
  by_cases newline : c = '\n'
  · cases chosen <;> simp [returned, newline]
  · exact .inl (returned_of_ne chosen newline)

variable (chosen : Nat → Bool)

theorem withReturns_append (front back : List Char) :
    withReturns chosen (front ++ back) = withReturns chosen front ++
      withReturns (fun offset => chosen (front.length + offset)) back := by
  induction front generalizing chosen with
  | nil => simp [withReturns]
  | cons c front ih =>
      simp only [List.cons_append, withReturns, ih, List.append_assoc, List.length_cons,
        Nat.add_right_comm]

theorem withReturns_concat (text : List Char) (c : Char) :
    withReturns chosen (text ++ [c]) =
      withReturns chosen text ++ returned (chosen text.length) c := by
  simp [withReturns_append, withReturns]

theorem withReturns_of_notMem {text : List Char} (line : '\n' ∉ text) :
    withReturns chosen text = text := by
  induction text generalizing chosen with
  | nil => rfl
  | cons c text ih =>
      rw [List.mem_cons, not_or] at line
      rw [withReturns, returned_of_ne _ (Ne.symm line.1), ih _ line.2, List.singleton_append]

theorem withReturns_ne_nil {text : List Char} (nonempty : text ≠ []) :
    withReturns chosen text ≠ [] := by
  cases text with
  | nil => exact absurd rfl nonempty
  | cons c text =>
      rcases returned_cases (chosen 0) c with same | ⟨-, same⟩ <;> simp [withReturns, same]

def returnedOffset (text : List Char) (offset : Nat) : Nat :=
  (withReturns chosen (text.take offset)).length

theorem withReturns_take_append (text : List Char) (offset : Nat) :
    withReturns chosen (text.take offset) ++
        withReturns (fun behind => chosen ((text.take offset).length + behind)) (text.drop offset) =
      withReturns chosen text := by
  rw [← withReturns_append, List.take_append_drop]

theorem take_withReturns (text : List Char) (offset : Nat) :
    (withReturns chosen text).take (returnedOffset chosen text offset) =
      withReturns chosen (text.take offset) := by
  rw [← withReturns_take_append chosen text offset, returnedOffset, List.take_left]

theorem drop_withReturns (text : List Char) (offset : Nat) :
    (withReturns chosen text).drop (returnedOffset chosen text offset) =
      withReturns (fun behind => chosen ((text.take offset).length + behind))
        (text.drop offset) := by
  rw [← withReturns_take_append chosen text offset, returnedOffset, List.drop_left]

theorem takeWhile_isNameChar_withReturns (text : List Char) :
    (withReturns chosen text).takeWhile isNameChar = text.takeWhile isNameChar := by
  induction text generalizing chosen with
  | nil => rfl
  | cons c text ih =>
      rcases returned_cases (chosen 0) c with same | ⟨rfl, same⟩
      · rw [withReturns, same, List.singleton_append, List.takeWhile_cons, ih, List.takeWhile_cons]
      · rw [withReturns, same]
        rfl

theorem rtakeWhile_isNameChar_withReturns (text : List Char) :
    (withReturns chosen text).rtakeWhile isNameChar = text.rtakeWhile isNameChar := by
  induction text using List.reverseRecOn with
  | nil => rfl
  | append_singleton text c ih =>
      rw [withReturns_concat]
      rcases returned_cases (chosen text.length) c with same | ⟨rfl, same⟩
      · rw [same, List.rtakeWhile_concat, ih, List.rtakeWhile_concat]
      · rw [same, List.append_cons, List.rtakeWhile_concat_neg _ _ _ (by decide),
          List.rtakeWhile_concat_neg _ _ _ (by decide)]

theorem nameBefore_withReturns (text : List Char) (offset : Nat) :
    nameBefore (withReturns chosen text) (returnedOffset chosen text offset) =
      nameBefore text offset := by
  rw [nameBefore, take_withReturns, rtakeWhile_isNameChar_withReturns, nameBefore]

theorem nameAt_withReturns (text : List Char) (offset : Nat) :
    nameAt (withReturns chosen text) (returnedOffset chosen text offset) = nameAt text offset := by
  rw [nameAt_eq, nameBefore_withReturns, drop_withReturns, takeWhile_isNameChar_withReturns,
    nameAt_eq]

theorem withReturns_append_cons {content : List Char} (unbroken : Unbroken content) (c : Char)
    (rest : List Char) :
    withReturns chosen (content ++ c :: rest) = content ++ returned (chosen content.length) c ++
      withReturns (fun offset => chosen (content.length + 1 + offset)) rest := by
  have line : '\n' ∉ content := unbroken.notMem rfl
  simp only [withReturns_append, withReturns_of_notMem chosen line, withReturns, List.append_assoc,
    Nat.add_zero, Nat.add_right_comm, ← Nat.add_assoc]

theorem firstLine_withReturns {text : List Char} (unix : '\r' ∉ text) :
    (firstLine (withReturns chosen text)).chars = withReturns chosen (firstLine text).chars ∧
      (firstLine (withReturns chosen text)).width = (firstLine text).width ∧
      afterFirstLine (withReturns chosen text) =
        withReturns (fun offset => chosen ((firstLine text).chars.length + offset))
          (afterFirstLine text) := by
  rcases unbroken_or_append_of_notMem unix with
    unbroken | ⟨content, c, rest, unbroken, terminator, other, rfl⟩
  · have same := withReturns_of_notMem chosen (unbroken.notMem (c := '\n') rfl)
    obtain ⟨line, after⟩ := firstLine_of_unbroken unbroken
    rw [same, line, after]
    exact ⟨by simp [Line.chars, same], rfl, rfl⟩
  · let rest' := withReturns (fun offset => chosen (content.length + 1 + offset)) rest
    have spelled := withReturns_append_cons chosen unbroken c
    obtain ⟨line, after⟩ := firstLine_append_of_ne rest unbroken terminator other
    rw [line, after, spelled rest]
    simp only [Line.chars, List.length_append, List.length_singleton, spelled [], withReturns,
      List.append_nil]
    rcases returned_cases (chosen content.length) c with same | ⟨rfl, same⟩
    · obtain ⟨line', after'⟩ := firstLine_append_of_ne rest' unbroken terminator other
      rw [same, List.append_assoc, List.singleton_append, line', after']
      exact ⟨rfl, rfl, rfl⟩
    · obtain ⟨line', after'⟩ := firstLine_append_return rest' unbroken
      rw [same, List.append_assoc, List.cons_append, List.singleton_append, line', after',
        Line.width_of_ends unbroken (by simp), Line.width_of_ends unbroken (by simp)]
      exact ⟨rfl, rfl, rfl⟩

theorem newline_notMem_take_width {text : List Char} (unix : '\r' ∉ text) :
    '\n' ∉ text.take (firstLine text).width := by
  rcases unbroken_or_append_of_notMem unix with
    unbroken | ⟨content, c, rest, unbroken, terminator, other, rfl⟩
  · exact fun member => unbroken.notMem rfl (List.mem_of_mem_take member)
  · have line := unbroken.notMem (c := '\n') rfl
    rw [(firstLine_append_of_ne rest unbroken terminator other).1]
    by_cases newline : c = '\n'
    · rw [Line.width_of_ends unbroken (by simp [newline]), List.take_left]
      exact line
    · rw [Line.width_of_other ⟨other, newline⟩, List.take_length_add_append, List.take_one]
      simp [line, Ne.symm newline]

theorem offsetBelow_withReturns {text : List Char} (unix : '\r' ∉ text) (column below : Nat) :
    offsetBelow 0 (withReturns chosen text) column below =
      returnedOffset chosen text (offsetBelow 0 text column below) := by
  induction below generalizing chosen text with
  | zero =>
      have within : '\n' ∉ text.take (min column (firstLine text).width) := by
        rw [← List.take_take]
        exact fun member => newline_notMem_take_width unix (List.mem_of_mem_take member)
      have le : (firstLine text).width ≤ text.length :=
        Nat.le_trans (Line.width_le _) (length_chars_firstLine_le text)
      rw [offsetBelow_zero, offsetBelow_zero, (firstLine_withReturns chosen unix).2.1,
        returnedOffset, withReturns_of_notMem chosen within, List.length_take]
      omega
  | succ below ih =>
      by_cases empty : text = []
      · subst empty
        rw [offsetBelow_nil]
        exact offsetBelow_nil column (below + 1)
      · obtain ⟨chars, -, after⟩ := firstLine_withReturns chosen unix
        have both := chars_firstLine_append text
        have unix' : '\r' ∉ afterFirstLine text := fun member =>
          unix (both ▸ List.mem_append_right _ member)
        rw [offsetBelow_succ empty, offsetBelow_succ (withReturns_ne_nil chosen empty), chars,
          after, ih _ unix', returnedOffset, returnedOffset, take_chars_firstLine_add,
          withReturns_append, List.length_append]

theorem offsetAt_withReturns {text : List Char} (unix : '\r' ∉ text) {line column : Int}
    (lineLe : 1 ≤ line) (columnLe : 0 ≤ column) :
    ∃ offset, offsetAt text line column = .ok offset ∧
      offsetAt (withReturns chosen text) line column =
        .ok (returnedOffset chosen text offset) := by
  rw [offsetAt_of_le _ lineLe columnLe, offsetAt_of_le _ lineLe columnLe,
    offsetBelow_withReturns chosen unix]
  exact ⟨_, rfl, rfl⟩

end ArgHints.Text
