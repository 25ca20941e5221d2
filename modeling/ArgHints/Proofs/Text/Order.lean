import ArgHints.Proofs.Text.Column

namespace ArgHints.Text

theorem offsetBelow_of_length_le {text : List Char} {below : Nat}
    (beyond : (lines text).length ≤ below) (column : Nat) :
    offsetBelow 0 text column below = text.length := by
  induction text using lines.induct generalizing below with
  | case1 => rw [offsetBelow_nil, List.length_nil]
  | case2 c rest ih =>
      rw [lines, List.length_cons] at beyond
      obtain ⟨below, rfl⟩ := Nat.exists_eq_succ_of_ne_zero (Nat.ne_zero_of_lt beyond)
      rw [offsetBelow_succ (List.cons_ne_nil c rest), ih (Nat.le_of_succ_le_succ beyond),
        length_chars_firstLine_add]

theorem offsetBelow_le_of_ordered {text : List Char} {column column' below below' : Nat}
    (ordered : below < below' ∨ below = below' ∧ column ≤ column') :
    offsetBelow 0 text column below ≤ offsetBelow 0 text column' below' := by
  induction below generalizing text below' with
  | zero =>
      rcases ordered with above | ⟨rfl, le⟩
      · obtain ⟨below', rfl⟩ := Nat.exists_eq_succ_of_ne_zero above.ne'
        rcases eq_or_ne text [] with rfl | nonempty
        · rw [offsetBelow_nil, offsetBelow_nil]
        · rw [offsetBelow_zero, offsetBelow_succ nonempty]
          calc min column (firstLine text).width
              ≤ (firstLine text).width := Nat.min_le_right _ _
            _ ≤ (firstLine text).chars.length := Line.width_le _
            _ ≤ (firstLine text).chars.length + _ := Nat.le_add_right _ _
      · rw [offsetBelow_zero, offsetBelow_zero]
        omega
  | succ below ih =>
      obtain ⟨below', rfl⟩ : ∃ further, below' = further + 1 :=
        Nat.exists_eq_succ_of_ne_zero (by omega)
      rcases eq_or_ne text [] with rfl | nonempty
      · rw [offsetBelow_nil, offsetBelow_nil]
      · rw [offsetBelow_succ nonempty, offsetBelow_succ nonempty]
        apply Nat.add_le_add_left
        apply ih
        omega

theorem offsetAt_eq_error_iff (text : List Char) (line column : Int) (error : PositionError) :
    offsetAt text line column = .error error ↔
      line < 1 ∧ error = .line line ∨ 1 ≤ line ∧ column < 0 ∧ error = .column column := by
  rw [offsetAt]
  split
  case isTrue lt =>
    have apart : ¬ 1 ≤ line := Int.not_le.mpr lt
    simp only [Except.error.injEq, lt, apart, true_and, false_and, or_false]
    exact eq_comm
  case isFalse le =>
    have lineLe : 1 ≤ line := Int.not_lt.mp le
    split
    case isTrue lt =>
      simp only [Except.error.injEq, lt, le, lineLe, true_and, false_and, false_or]
      exact eq_comm
    case isFalse le' => simp [le, le']

/-- A line from 1 on and a column from 0 on lead to an offset in the text, which is its end for a
line beyond the last one, and any others to the error of the first of them that is out of range. A
position further on never leads to an offset further back. -/
theorem offsetAt_monotone (text : List Char) (line column : Int) :
    (∀ error, offsetAt text line column = .error error ↔
      line < 1 ∧ error = .line line ∨ 1 ≤ line ∧ column < 0 ∧ error = .column column) ∧
    (1 ≤ line → 0 ≤ column →
      ∃ offset, offsetAt text line column = .ok offset ∧ offset ≤ text.length ∧
        ((lines text).length < line → offset = text.length) ∧
        ∀ line' column' : Int, line < line' ∨ line = line' ∧ column ≤ column' → 0 ≤ column' →
          ∃ offset', offsetAt text line' column' = .ok offset' ∧ offset ≤ offset') := by
  refine ⟨offsetAt_eq_error_iff text line column, fun lineLe columnLe => ?_⟩
  refine ⟨_, offsetAt_of_le text lineLe columnLe, offsetBelow_le _ _ _, fun beyond => ?_, ?_⟩
  · exact offsetBelow_of_length_le (by omega) _
  · intro line' column' ordered columnLe'
    refine ⟨_, offsetAt_of_le text (by omega) columnLe', ?_⟩
    apply offsetBelow_le_of_ordered
    omega

theorem offsetAt_monotone_past_tab :
    let text := "a\x0bb\r\nc".toList
    (1 : Int) ≤ 1 ∧ (0 : Int) ≤ 9 ∧ (1 : Int) < 2 ∧ (0 : Int) ≤ 0 ∧ offsetAt text 1 9 = .ok 2 ∧
      (∃ offset, offsetAt text 2 0 = .ok offset ∧ 2 ≤ offset) ∧
      ((lines text).length : Int) < 4 ∧ offsetAt text 4 0 = .ok text.length ∧
      offsetAt text 0 (-1) = .error (.line 0) ∧ offsetAt text 1 (-1) = .error (.column (-1)) := by
  intro text
  have tab : offsetAt text 1 9 = .ok 2 := by decide +kernel
  have beyond : ((lines text).length : Int) < 4 := by decide +kernel
  obtain ⟨offset, found, -, -, later⟩ :=
    (offsetAt_monotone text 1 9).2 (by decide) (by decide)
  obtain ⟨next, found', le⟩ := later 2 0 (.inl (by decide)) (by decide)
  obtain ⟨last, foundLast, -, ends, -⟩ :=
    (offsetAt_monotone text 4 0).2 (by decide) (by decide)
  rw [tab, Except.ok.injEq] at found
  rw [ends beyond] at foundLast
  refine ⟨by decide, by decide, by decide, by decide, tab, ⟨next, found', found ▸ le⟩, beyond,
    foundLast, ?_, ?_⟩
  · exact ((offsetAt_monotone text 0 (-1)).1 _).mpr (.inl ⟨by decide, rfl⟩)
  · exact ((offsetAt_monotone text 1 (-1)).1 _).mpr (.inr ⟨by decide, by decide, rfl⟩)

end ArgHints.Text
