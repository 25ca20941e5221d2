import ArgHints.Proofs.Text.Line

/-!
# Columns on a line

An offset by line and column is the start of the line, which is what the lines above take up, and
then the columns up to the width of the line (`offsetBelow_of_split`). The width is the length of
the content where the line ends in a carriage return, a newline, both or nothing. Any other
terminator counts as one more column, so there a column past the content leads to the next line:
`offsetAt_on_line`.
-/

namespace ArgHints.Text

theorem lines_nil : lines [] = [] := by
  rw [lines]

theorem lines_of_ne_nil {text : List Char} (nonempty : text ≠ []) :
    lines text = firstLine text :: lines (afterFirstLine text) := by
  cases text with
  | nil => exact absurd rfl nonempty
  | cons c rest => rw [lines]

theorem flatMap_chars_lines (text : List Char) : (lines text).flatMap Line.chars = text := by
  induction text using lines.induct with
  | case1 => rw [lines_nil, List.flatMap_nil]
  | case2 c rest ih => rw [lines, List.flatMap_cons, ih, chars_firstLine_append]

theorem mem_lines {text : List Char} {line : Line} (member : line ∈ lines text) :
    ∃ rest, line = firstLine rest := by
  induction text using lines.induct with
  | case1 =>
      rw [lines_nil] at member
      cases member
  | case2 c rest ih =>
      rw [lines] at member
      rcases List.mem_cons.mp member with here | below
      · exact ⟨c :: rest, here⟩
      · exact ih below

theorem unbroken_firstLine (text : List Char) : Unbroken (firstLine text).content := by
  intro c member
  simpa using List.mem_takeWhile_imp member

/-- Whether what ends a line is no column of it: carriage returns and newlines are none. -/
def Line.EndsPlainly (line : Line) : Prop :=
  ∀ c ∈ line.terminator, c = '\r' ∨ c = '\n'

instance (line : Line) : Decidable line.EndsPlainly :=
  List.decidableBAll (fun c => c = '\r' ∨ c = '\n') line.terminator

theorem leadingTerminator_cases (text : List Char) :
    (∀ c ∈ leadingTerminator text, c = '\r' ∨ c = '\n') ∨
      ∃ c, leadingTerminator text = [c] ∧ c ≠ '\r' ∧ c ≠ '\n' := by
  unfold leadingTerminator
  split
  case h_1 => exact .inl (by simp)
  case h_2 c _ _ =>
    by_cases plain : c = '\r' ∨ c = '\n'
    · exact .inl (by simpa using plain)
    · exact .inr ⟨c, rfl, not_or.mp plain⟩
  case h_3 => exact .inl (by simp)

theorem width_firstLine (text : List Char) :
    (firstLine text).width =
      (firstLine text).content.length + if (firstLine text).EndsPlainly then 0 else 1 := by
  have unbroken := unbroken_firstLine text
  rcases leadingTerminator_cases (text.dropWhile (!isTerminator ·)) with plain | ⟨c, single, other⟩
  · have ends : (firstLine text).EndsPlainly := plain
    rw [if_pos ends]
    exact Line.width_of_ends unbroken plain
  · have counted : ¬ (firstLine text).EndsPlainly := by
      intro plain
      rcases plain c (by simp [firstLine, single]) with same | same
      · exact other.1 same
      · exact other.2 same
    rw [if_neg counted, firstLine, single]
    exact Line.width_of_other other

theorem lines_eq_cons {text : List Char} {line : Line} {below : List Line}
    (split : lines text = line :: below) :
    text ≠ [] ∧ firstLine text = line ∧ lines (afterFirstLine text) = below := by
  have nonempty : text ≠ [] := by
    rintro rfl
    rw [lines_nil] at split
    cases split
  rw [lines_of_ne_nil nonempty] at split
  exact ⟨nonempty, List.cons_eq_cons.mp split⟩

theorem offsetBelow_of_split {text : List Char} {above below : List Line} {line : Line}
    (split : lines text = above ++ line :: below) (column : Nat) :
    offsetBelow 0 text column above.length =
      (above.flatMap Line.chars).length + min column line.width := by
  induction above generalizing text with
  | nil =>
      obtain ⟨-, here, -⟩ := lines_eq_cons split
      rw [List.length_nil, offsetBelow_zero, here, List.flatMap_nil, List.length_nil, Nat.zero_add]
  | cons first above ih =>
      obtain ⟨nonempty, here, after⟩ := lines_eq_cons split
      rw [List.length_cons, offsetBelow_succ nonempty, ih after, here, List.flatMap_cons,
        List.length_append, Nat.add_assoc]

/-- A column counts from the start of its line up to the end of its content, and one further where
the line ends in something other than carriage returns and newlines. So it stays on its line unless
it is past the content of such a line. -/
theorem offsetAt_on_line {text : List Char} {above below : List Line} {line : Line}
    (split : lines text = above ++ line :: below) {column : Int} (columnLe : 0 ≤ column) :
    let start := (above.flatMap Line.chars).length
    let width := line.content.length + if line.EndsPlainly then 0 else 1
    text = above.flatMap Line.chars ++ line.content ++ line.terminator ++
        below.flatMap Line.chars ∧
      Unbroken line.content ∧
      offsetAt text (above.length + 1) column = .ok (start + min column.toNat width) ∧
      (offsetAt text (above.length + 1) column =
          .ok (start + min column.toNat line.content.length) ↔
        line.EndsPlainly ∨ column ≤ line.content.length) := by
  intro start width
  have member : line ∈ lines text := by simp [split]
  obtain ⟨rest, rfl⟩ := mem_lines member
  have found : offsetAt text (above.length + 1) column = .ok (start + min column.toNat width) := by
    rw [offsetAt_of_le text (by omega) columnLe, show (above.length + 1 - 1 : Int).toNat =
      above.length by omega, offsetBelow_of_split split, width_firstLine]
  refine ⟨?_, unbroken_firstLine rest, found, ?_⟩
  · have all := flatMap_chars_lines text
    rw [split, List.flatMap_append, List.flatMap_cons, Line.chars] at all
    simpa using all.symm
  · rw [found, Except.ok.injEq]
    by_cases plain : (firstLine rest).EndsPlainly
    · simp [width, plain]
    · simp only [width, plain, if_false, false_or]
      omega

theorem offsetAt_on_second_line :
    let text := "x\r\na\x0bb".toList
    let line : Line := ⟨['a'], ['\x0b']⟩
    lines text = [⟨['x'], ['\r', '\n']⟩] ++ line :: [⟨['b'], []⟩] ∧ ¬ line.EndsPlainly ∧
      (0 : Int) ≤ 9 ∧ offsetAt text 2 9 = .ok (3 + min 9 2) ∧
      offsetAt text 2 9 ≠ .ok (3 + min 9 1) := by
  intro text line
  have split : lines text = [⟨['x'], ['\r', '\n']⟩] ++ line :: [⟨['b'], []⟩] := by
    decide +kernel
  obtain ⟨-, -, found, stays⟩ := offsetAt_on_line split (show (0 : Int) ≤ 9 by decide)
  have other : ¬ (line.EndsPlainly ∨ (9 : Int) ≤ line.content.length) := by decide
  exact ⟨split, by decide, by decide, found, fun same => other (stays.mp same)⟩

/-- A vertical tab ends the line after one character, but the line has two columns. -/
theorem column_leaves_line :
    let text := "a\x0bb".toList
    lines text = [] ++ ⟨['a'], ['\x0b']⟩ :: [⟨['b'], []⟩] ∧ (0 : Int) ≤ 2 ∧
      offsetAt text 1 2 = .ok 2 ∧ offsetAt text 1 2 ≠ .ok (0 + min 2 ['a'].length) := by
  decide +kernel

end ArgHints.Text
