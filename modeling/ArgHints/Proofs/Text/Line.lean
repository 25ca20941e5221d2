import ArgHints.Text.Line
import Mathlib.Data.List.DropRight

namespace ArgHints.Text

def Unbroken (text : List Char) : Prop :=
  ∀ c ∈ text, isTerminator c = false

theorem Unbroken.notMem {text : List Char} (unbroken : Unbroken text) {c : Char}
    (terminator : isTerminator c = true) : c ∉ text := by
  intro member
  rw [unbroken c member] at terminator
  cases terminator

theorem Unbroken.takeWhile_append {content : List Char} (unbroken : Unbroken content) {c : Char}
    (terminator : isTerminator c = true) (rest : List Char) :
    (content ++ c :: rest).takeWhile (!isTerminator ·) = content := by
  rw [List.takeWhile_append_of_pos (by simpa [Unbroken] using unbroken),
    List.takeWhile_cons_of_neg (by simp [terminator]), List.append_nil]

theorem Unbroken.dropWhile_append {content : List Char} (unbroken : Unbroken content) {c : Char}
    (terminator : isTerminator c = true) (rest : List Char) :
    (content ++ c :: rest).dropWhile (!isTerminator ·) = c :: rest := by
  rw [List.dropWhile_append_of_pos (by simpa [Unbroken] using unbroken),
    List.dropWhile_cons_of_neg (by simp [terminator])]

theorem firstLine_of_unbroken {text : List Char} (unbroken : Unbroken text) :
    firstLine text = ⟨text, []⟩ ∧ afterFirstLine text = [] := by
  have none : text.dropWhile (!isTerminator ·) = [] := by
    simpa [Unbroken, List.dropWhile_eq_nil_iff] using unbroken
  have all : text.takeWhile (!isTerminator ·) = text := by
    simpa [Unbroken, List.takeWhile_eq_self_iff] using unbroken
  simp [firstLine, afterFirstLine, none, all, leadingTerminator]

theorem firstLine_append {content : List Char} {c : Char} (rest : List Char)
    (unbroken : Unbroken content) (terminator : isTerminator c = true)
    (single : c = '\r' → rest.head? ≠ some '\n') :
    firstLine (content ++ c :: rest) = ⟨content, [c]⟩ ∧
      afterFirstLine (content ++ c :: rest) = rest := by
  have leading : leadingTerminator (c :: rest) = [c] := by
    unfold leadingTerminator
    split
    case h_1 returned => simp_all
    case h_2 => simp_all
    case h_3 => simp_all
  simp [firstLine, afterFirstLine, unbroken.takeWhile_append terminator,
    unbroken.dropWhile_append terminator, leading]

theorem firstLine_append_of_ne {content : List Char} {c : Char} (rest : List Char)
    (unbroken : Unbroken content) (terminator : isTerminator c = true) (other : c ≠ '\r') :
    firstLine (content ++ c :: rest) = ⟨content, [c]⟩ ∧
      afterFirstLine (content ++ c :: rest) = rest :=
  firstLine_append rest unbroken terminator fun same => absurd same other

theorem firstLine_append_return {content : List Char} (rest : List Char)
    (unbroken : Unbroken content) :
    firstLine (content ++ '\r' :: '\n' :: rest) = ⟨content, ['\r', '\n']⟩ ∧
      afterFirstLine (content ++ '\r' :: '\n' :: rest) = rest := by
  have terminator : isTerminator '\r' = true := rfl
  simp [firstLine, afterFirstLine, unbroken.takeWhile_append terminator,
    unbroken.dropWhile_append terminator, leadingTerminator]

theorem unbroken_or_append (text : List Char) :
    Unbroken text ∨ ∃ content c rest, Unbroken content ∧ isTerminator c = true ∧
      text = content ++ c :: rest := by
  have unbroken : Unbroken (text.takeWhile (!isTerminator ·)) := by
    intro c member
    simpa using List.mem_takeWhile_imp member
  have both := List.takeWhile_append_dropWhile (p := (!isTerminator ·)) (l := text)
  cases tail : text.dropWhile (!isTerminator ·) with
  | nil =>
      rw [tail, List.append_nil] at both
      exact .inl (both ▸ unbroken)
  | cons c rest =>
      have terminator := List.head_dropWhile_not (!isTerminator ·) (l := text) (by simp [tail])
      refine .inr ⟨_, c, rest, unbroken, ?_, ?_⟩
      · simpa [tail] using terminator
      · rw [← tail, both]

theorem unbroken_or_append_of_notMem {text : List Char} (unix : '\r' ∉ text) :
    Unbroken text ∨ ∃ content c rest, Unbroken content ∧ isTerminator c = true ∧ c ≠ '\r' ∧
      text = content ++ c :: rest := by
  rcases unbroken_or_append text with unbroken | ⟨content, c, rest, unbroken, terminator, rfl⟩
  · exact .inl unbroken
  · refine .inr ⟨content, c, rest, unbroken, terminator, ?_, rfl⟩
    rintro rfl
    simp at unix

theorem chars_firstLine_append (text : List Char) :
    (firstLine text).chars ++ afterFirstLine text = text := by
  have leading : ∀ tail : List Char,
      leadingTerminator tail ++ tail.drop (leadingTerminator tail).length = tail := by
    intro tail
    unfold leadingTerminator
    split <;> simp
  rw [Line.chars, firstLine, afterFirstLine, List.append_assoc, leading,
    List.takeWhile_append_dropWhile]

theorem length_chars_firstLine_add (text : List Char) :
    (firstLine text).chars.length + (afterFirstLine text).length = text.length := by
  rw [← List.length_append, chars_firstLine_append]

theorem length_chars_firstLine_le (text : List Char) :
    (firstLine text).chars.length ≤ text.length := by
  rw [← length_chars_firstLine_add text]
  exact Nat.le_add_right _ _

theorem take_chars_firstLine_add (text : List Char) (k : Nat) :
    text.take ((firstLine text).chars.length + k) =
      (firstLine text).chars ++ (afterFirstLine text).take k :=
  calc text.take ((firstLine text).chars.length + k)
      = ((firstLine text).chars ++ afterFirstLine text).take
          ((firstLine text).chars.length + k) := by rw [chars_firstLine_append]
    _ = (firstLine text).chars ++ (afterFirstLine text).take k := List.take_length_add_append k

theorem Line.width_eq (line : Line) :
    line.width = (line.chars.rdropWhile fun c => c == '\r' || c == '\n').length := by
  rw [width, List.rdropWhile, List.length_reverse]

theorem Line.width_le (line : Line) : line.width ≤ line.chars.length := by
  rw [width_eq]
  exact (List.rdropWhile_prefix _ _).length_le

theorem Line.width_of_ends {content terminator : List Char} (unbroken : Unbroken content)
    (ends : ∀ c ∈ terminator, c = '\r' ∨ c = '\n') :
    (Line.mk content terminator).width = content.length := by
  have stripped : (content ++ terminator).rdropWhile (fun c => c == '\r' || c == '\n') =
      content.rdropWhile fun c => c == '\r' || c == '\n' := by
    induction terminator using List.reverseRecOn with
    | nil => rw [List.append_nil]
    | append_singleton terminator c ih =>
        rw [← List.append_assoc, List.rdropWhile_concat_pos _ _ _ (by simpa using ends c (by simp))]
        exact ih fun c member => ends c (List.mem_append_left _ member)
  have kept : content.rdropWhile (fun c => c == '\r' || c == '\n') = content := by
    rw [List.rdropWhile_eq_self_iff]
    intro nonempty ends
    have last := List.getLast_mem nonempty
    have terminator : isTerminator (content.getLast nonempty) = true := by
      obtain same | same : content.getLast nonempty = '\r' ∨ content.getLast nonempty = '\n' := by
        simpa using ends
      · rw [same]; rfl
      · rw [same]; rfl
    exact unbroken.notMem terminator last
  rw [width_eq, chars, stripped, kept]

theorem Line.width_of_other {content : List Char} {c : Char} (other : c ≠ '\r' ∧ c ≠ '\n') :
    (Line.mk content [c]).width = content.length + 1 := by
  rw [width_eq, chars, List.rdropWhile_concat_neg _ _ _ (by simpa using other)]
  simp

theorem offsetBelow_add (start : Nat) (text : List Char) (column below : Nat) :
    offsetBelow start text column below = start + offsetBelow 0 text column below := by
  induction below generalizing start text with
  | zero => simp [offsetBelow]
  | succ below ih =>
      rw [offsetBelow, offsetBelow]
      split
      · rfl
      · rw [ih, ih (0 + _)]
        omega

theorem offsetBelow_zero (text : List Char) (column : Nat) :
    offsetBelow 0 text column 0 = min column (firstLine text).width := by
  rw [offsetBelow, Nat.zero_add]

theorem offsetBelow_nil (column below : Nat) : offsetBelow 0 [] column below = 0 := by
  cases below with
  | zero => rw [offsetBelow_zero]; exact Nat.min_eq_right (Nat.zero_le column)
  | succ below => rfl

theorem offsetBelow_succ {text : List Char} (nonempty : text ≠ []) (column below : Nat) :
    offsetBelow 0 text column (below + 1) =
      (firstLine text).chars.length + offsetBelow 0 (afterFirstLine text) column below := by
  rw [offsetBelow, if_neg (by simpa using nonempty), Nat.zero_add, offsetBelow_add]

theorem offsetBelow_le (text : List Char) (column below : Nat) :
    offsetBelow 0 text column below ≤ text.length := by
  induction below generalizing text with
  | zero =>
      rw [offsetBelow_zero]
      calc min column (firstLine text).width
          ≤ (firstLine text).width := Nat.min_le_right _ _
        _ ≤ (firstLine text).chars.length := Line.width_le _
        _ ≤ text.length := length_chars_firstLine_le text
  | succ below ih =>
      rcases eq_or_ne text [] with rfl | nonempty
      · rw [offsetBelow_nil]; exact Nat.zero_le _
      · rw [offsetBelow_succ nonempty, ← length_chars_firstLine_add text]
        exact Nat.add_le_add_left (ih (afterFirstLine text)) _

theorem offsetAt_of_le {line column : Int} (text : List Char) (lineLe : 1 ≤ line)
    (columnLe : 0 ≤ column) :
    offsetAt text line column = .ok (offsetBelow 0 text column.toNat (line - 1).toNat) := by
  rw [offsetAt, if_neg (by omega), if_neg (by omega)]

theorem le_of_offsetAt {text : List Char} {line column : Int} {offset : Nat}
    (found : offsetAt text line column = .ok offset) :
    1 ≤ line ∧ 0 ≤ column ∧ offset ≤ text.length := by
  rw [offsetAt] at found
  split at found
  case isTrue => cases found
  case isFalse lineLe =>
    split at found
    case isTrue => cases found
    case isFalse columnLe =>
      cases found
      exact ⟨by omega, by omega, offsetBelow_le _ _ _⟩

theorem lt_of_offsetAt {text : List Char} {line column : Int} {error : PositionError}
    (failed : offsetAt text line column = .error error) : line < 1 ∨ column < 0 := by
  by_contra within
  rw [offsetAt_of_le text (by omega) (by omega)] at failed
  cases failed

end ArgHints.Text
