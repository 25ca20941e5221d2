import ArgHints.Proofs.Text.Column

namespace ArgHints.Text

/-- Whether a terminator ends with the character at an index. A return in front of a newline is one
terminator with it. -/
def endsTerminator (text : List Char) (index : Nat) : Bool :=
  text[index]?.any isTerminator &&
    !(text[index]? == some '\r' && text[index + 1]? == some '\n')

def lineEnds (text : List Char) (offset : Nat) : List Nat :=
  ((List.range offset).filter (endsTerminator text)).map (· + 1)

def lineStart (text : List Char) (offset : Nat) : Nat :=
  (lineEnds text offset).getLast?.getD 0

def InsidePair (text : List Char) (offset : Nat) : Prop :=
  (text.take offset).getLast? = some '\r' ∧ (text.drop offset).head? = some '\n'

instance (text : List Char) (offset : Nat) : Decidable (InsidePair text offset) :=
  inferInstanceAs (Decidable (_ ∧ _))

theorem lineStart_le (text : List Char) (offset : Nat) : lineStart text offset ≤ offset := by
  unfold lineStart
  cases last : (lineEnds text offset).getLast? with
  | none => exact Nat.zero_le offset
  | some found =>
      have member := List.mem_of_getLast? last
      simp only [lineEnds, List.mem_map, List.mem_filter, List.mem_range] at member
      obtain ⟨index, ⟨before, -⟩, rfl⟩ := member
      exact before

theorem lineEnds_of_forall {text : List Char} {offset : Nat}
    (none : ∀ index < offset, endsTerminator text index = false) : lineEnds text offset = [] := by
  unfold lineEnds
  rw [List.map_eq_nil_iff, List.filter_eq_nil_iff]
  intro index member
  simp [none index (List.mem_range.mp member)]

theorem endsTerminator_append (front rest : List Char) (index : Nat) :
    endsTerminator (front ++ rest) (front.length + index) = endsTerminator rest index := by
  unfold endsTerminator
  rw [Nat.add_assoc, List.getElem?_append_right (Nat.le_add_right _ _),
    List.getElem?_append_right (Nat.le_add_right _ _), Nat.add_sub_cancel_left,
    Nat.add_sub_cancel_left]

theorem lineEnds_append (front rest : List Char) (ahead : Nat) :
    lineEnds (front ++ rest) (front.length + ahead) =
      lineEnds (front ++ rest) front.length ++ (lineEnds rest ahead).map (front.length + ·) := by
  have shifted : endsTerminator (front ++ rest) ∘ (front.length + ·) = endsTerminator rest := by
    funext index
    exact endsTerminator_append front rest index
  unfold lineEnds
  rw [List.range_add, List.filter_append, List.map_append, List.filter_map, shifted]
  simp [Nat.add_assoc]

theorem InsidePair.append {rest : List Char} {ahead : Nat} (inside : InsidePair rest ahead)
    (front : List Char) : InsidePair (front ++ rest) (front.length + ahead) := by
  obtain ⟨returned, newline⟩ := inside
  unfold InsidePair
  rw [List.take_length_add_append, List.drop_length_add_append, List.getLast?_append, returned]
  exact ⟨rfl, newline⟩

theorem Unbroken.lineEnds_append {content : List Char} (unbroken : Unbroken content)
    (rest : List Char) {offset : Nat} (le : offset ≤ content.length) :
    lineEnds (content ++ rest) offset = [] := by
  apply lineEnds_of_forall
  intro index before
  have lt : index < content.length := Nat.lt_of_lt_of_le before le
  have other := unbroken _ (List.getElem_mem lt)
  unfold endsTerminator
  rw [List.getElem?_append_left lt, List.getElem?_eq_getElem lt, Option.any_some, other,
    Bool.false_and]

theorem lineEnds_of_unbroken {text : List Char} (unbroken : Unbroken text) (offset : Nat) :
    lineEnds text offset = [] := by
  apply lineEnds_of_forall
  intro index _
  unfold endsTerminator
  cases found : text[index]? with
  | none => rfl
  | some c =>
      rw [Option.any_some, unbroken c (List.mem_of_getElem? found), Bool.false_and]

theorem leadingTerminator_cons (c : Char) (rest : List Char) :
    (∃ later, c = '\r' ∧ rest = '\n' :: later ∧ leadingTerminator (c :: rest) = ['\r', '\n']) ∨
      ¬ (c = '\r' ∧ rest.head? = some '\n') ∧ leadingTerminator (c :: rest) = [c] := by
  by_cases pair : c = '\r' ∧ rest.head? = some '\n'
  · obtain ⟨rfl, newline⟩ := pair
    obtain ⟨later, rfl⟩ := List.head?_eq_some_iff.mp newline
    exact .inl ⟨later, rfl, rfl, rfl⟩
  · refine .inr ⟨pair, ?_⟩
    unfold leadingTerminator
    split
    case h_1 later same =>
      obtain ⟨rfl, rfl⟩ := List.cons_eq_cons.mp same
      exact absurd ⟨rfl, rfl⟩ pair
    case h_2 same => rw [(List.cons_eq_cons.mp same).1]
    case h_3 same => cases same

theorem length_leadingTerminator_pos (c : Char) (rest : List Char) :
    0 < (leadingTerminator (c :: rest)).length := by
  obtain ⟨later, -, -, pair⟩ | ⟨-, single⟩ := leadingTerminator_cons c rest
  · rw [pair]
    exact Nat.zero_lt_two
  · rw [single]
    exact Nat.zero_lt_one

theorem lineEnds_leadingTerminator {c : Char} (rest : List Char)
    (terminator : isTerminator c = true) {ahead : Nat}
    (le : ahead ≤ (leadingTerminator (c :: rest)).length) :
    lineEnds (c :: rest) ahead =
      if ahead = (leadingTerminator (c :: rest)).length then [ahead] else [] := by
  obtain ⟨later, rfl, rfl, pair⟩ | ⟨apart, single⟩ := leadingTerminator_cons c rest
  · rw [pair] at le ⊢
    obtain rfl | rfl | rfl : ahead = 0 ∨ ahead = 1 ∨ ahead = 2 := by
      simp only [List.length_cons, List.length_nil] at le
      omega
    · rfl
    · rfl
    · rfl
  · rw [single] at le ⊢
    obtain rfl | rfl : ahead = 0 ∨ ahead = 1 := by
      simp only [List.length_cons, List.length_nil] at le
      omega
    · rfl
    · have ends : endsTerminator (c :: rest) 0 = true := by
        unfold endsTerminator
        rw [List.head?_eq_getElem?] at apart
        simpa [terminator, imp_iff_not_or] using apart
      unfold lineEnds
      rw [List.range_one, List.filter_singleton, ends]
      rfl

theorem firstLine_of_terminator {content : List Char} {c : Char} (rest : List Char)
    (unbroken : Unbroken content) (terminator : isTerminator c = true) :
    firstLine (content ++ c :: rest) = ⟨content, leadingTerminator (c :: rest)⟩ := by
  rw [firstLine, unbroken.takeWhile_append terminator, unbroken.dropWhile_append terminator]

theorem length_chars_of_terminator {content : List Char} {c : Char} (rest : List Char)
    (unbroken : Unbroken content) (terminator : isTerminator c = true) :
    (firstLine (content ++ c :: rest)).chars.length =
      content.length + (leadingTerminator (c :: rest)).length := by
  rw [firstLine_of_terminator rest unbroken terminator, Line.chars, List.length_append]

section

variable {text : List Char}

theorem unbroken_of_terminator (last : (firstLine text).terminator = []) : Unbroken text := by
  rcases unbroken_or_append text with unbroken | ⟨content, c, rest, unbroken, terminator, rfl⟩
  · exact unbroken
  · have positive := length_leadingTerminator_pos c rest
    rw [firstLine_of_terminator rest unbroken terminator] at last
    rw [List.length_pos_iff] at positive
    contradiction

theorem lineEnds_firstLine {offset : Nat} (ends : (firstLine text).terminator ≠ [])
    (le : offset ≤ (firstLine text).chars.length) :
    lineEnds text offset = if offset = (firstLine text).chars.length then [offset] else [] := by
  rcases unbroken_or_append text with unbroken | ⟨content, c, rest, unbroken, terminator, rfl⟩
  · rw [(firstLine_of_unbroken unbroken).1] at ends
    contradiction
  · have positive := length_leadingTerminator_pos c rest
    rw [length_chars_of_terminator rest unbroken terminator] at le ⊢
    rcases Nat.lt_or_ge content.length offset with past | within
    · obtain ⟨ahead, rfl⟩ := Nat.exists_eq_add_of_le past.le
      have last := lineEnds_leadingTerminator rest terminator (Nat.le_of_add_le_add_left le)
      rw [lineEnds_append, unbroken.lineEnds_append _ le_rfl, List.nil_append, last]
      simp only [Nat.add_left_cancel_iff]
      split
      · rfl
      · rfl
    · rw [unbroken.lineEnds_append _ within, if_neg (by omega)]

theorem lineEnds_of_within {offset : Nat}
    (within : (firstLine text).terminator = [] ∨ offset < (firstLine text).chars.length) :
    lineEnds text offset = [] := by
  by_cases last : (firstLine text).terminator = []
  · exact lineEnds_of_unbroken (unbroken_of_terminator last) offset
  · have lt := within.resolve_left last
    rw [lineEnds_firstLine last lt.le, if_neg lt.ne]

theorem lineEnds_below (ends : (firstLine text).terminator ≠ []) (ahead : Nat) :
    lineEnds text ((firstLine text).chars.length + ahead) =
      (firstLine text).chars.length ::
        (lineEnds (afterFirstLine text) ahead).map ((firstLine text).chars.length + ·) := by
  have split := lineEnds_append (firstLine text).chars (afterFirstLine text) ahead
  rw [chars_firstLine_append, lineEnds_firstLine ends le_rfl, if_pos rfl] at split
  exact split

theorem lineStart_below (ends : (firstLine text).terminator ≠ []) (ahead : Nat) :
    lineStart text ((firstLine text).chars.length + ahead) =
      (firstLine text).chars.length + lineStart (afterFirstLine text) ahead := by
  unfold lineStart
  rw [lineEnds_below ends, List.getLast?_cons, List.getLast?_map]
  cases (lineEnds (afterFirstLine text) ahead).getLast? with
  | none => rfl
  | some last => rfl

theorem le_content_of_within {offset : Nat} (le : offset ≤ text.length)
    (outside : ¬ InsidePair text offset)
    (within : (firstLine text).terminator = [] ∨ offset < (firstLine text).chars.length) :
    offset ≤ (firstLine text).content.length := by
  by_cases last : (firstLine text).terminator = []
  · rw [(firstLine_of_unbroken (unbroken_of_terminator last)).1]
    exact le
  · have lt := within.resolve_left last
    rcases unbroken_or_append text with unbroken | ⟨content, c, rest, unbroken, terminator, rfl⟩
    · rw [(firstLine_of_unbroken unbroken).1] at last
      contradiction
    · rw [length_chars_of_terminator rest unbroken terminator] at lt
      rw [firstLine_of_terminator rest unbroken terminator]
      by_contra past
      have past : content.length < offset := Nat.lt_of_not_le past
      obtain ⟨later, rfl, rfl, pair⟩ | ⟨-, single⟩ := leadingTerminator_cons c rest
      · rw [pair, List.length_cons, List.length_singleton] at lt
        obtain rfl : offset = content.length + 1 := by omega
        apply outside
        exact InsidePair.append ⟨rfl, rfl⟩ content
      · rw [single, List.length_singleton] at lt
        omega

end

theorem within_or_below (text : List Char) (offset : Nat) :
    ((firstLine text).terminator = [] ∨ offset < (firstLine text).chars.length) ∨
      (firstLine text).terminator ≠ [] ∧
        ∃ ahead, offset = (firstLine text).chars.length + ahead := by
  by_cases within : (firstLine text).terminator = [] ∨ offset < (firstLine text).chars.length
  · exact .inl within
  · obtain ⟨ends, le⟩ := not_or.mp within
    exact .inr ⟨ends, Nat.exists_eq_add_of_le (Nat.le_of_not_lt le)⟩

theorem length_lineEnds (text : List Char) :
    (lineEnds text text.length).length = (lines text).countP (!·.terminator.isEmpty) := by
  induction text using lines.induct with
  | case1 => rw [lines_nil, List.countP_nil]; rfl
  | case2 c rest ih =>
      rw [lines]
      by_cases last : (firstLine (c :: rest)).terminator = []
      · have unbroken := unbroken_of_terminator last
        rw [lineEnds_of_unbroken unbroken, (firstLine_of_unbroken unbroken).2, lines_nil,
          List.countP_cons_of_neg (by simpa using last)]
        rfl
      · rw [← length_chars_firstLine_add (c :: rest), lineEnds_below last, List.length_cons,
          List.length_map, ih, List.countP_cons_of_pos (by simpa using last)]

theorem positionAhead_eq (number : Nat) (text : List Char) (ahead : Nat) :
    positionAhead number text ahead =
      ⟨number + (lineEnds text ahead).length, ahead - lineStart text ahead⟩ := by
  induction text using lines.induct generalizing number ahead with
  | case1 =>
      rw [positionAhead, lineStart, lineEnds_of_unbroken (by simp [Unbroken])]
      rfl
  | case2 c rest ih =>
      rcases within_or_below (c :: rest) ahead with within | ⟨ends, ahead, rfl⟩
      · rw [positionAhead, lineStart, lineEnds_of_within within]
        exact if_pos (by simpa using within)
      · rw [positionAhead, lineStart_below ends, lineEnds_below ends]
        rw [if_neg (by simpa using ends), Nat.add_sub_cancel_left, ih]
        simp only [List.length_cons, List.length_map]
        rw [Nat.add_sub_add_left, Nat.add_assoc, Nat.add_comm 1]

theorem offsetBelow_lineStart {text : List Char} {offset : Nat} (le : offset ≤ text.length)
    (outside : ¬ InsidePair text offset) :
    offsetBelow 0 text (offset - lineStart text offset) (lineEnds text offset).length = offset := by
  induction text using lines.induct generalizing offset with
  | case1 => rw [offsetBelow_nil, Nat.le_zero.mp le]
  | case2 c rest ih =>
      rcases within_or_below (c :: rest) offset with within | ⟨ends, ahead, rfl⟩
      · have content := le_content_of_within le outside within
        rw [lineStart, lineEnds_of_within within, List.length_nil, offsetBelow_zero,
          width_firstLine]
        exact Nat.min_eq_left (Nat.le_add_right_of_le content)
      · have whole := chars_firstLine_append (c :: rest)
        have below : ahead ≤ (afterFirstLine (c :: rest)).length := by
          rw [← length_chars_firstLine_add (c :: rest)] at le
          exact Nat.le_of_add_le_add_left le
        have outside' : ¬ InsidePair (afterFirstLine (c :: rest)) ahead := by
          intro inside
          have inside := inside.append (firstLine (c :: rest)).chars
          rw [whole] at inside
          exact outside inside
        rw [lineStart_below ends, lineEnds_below ends, List.length_cons, List.length_map,
          Nat.add_sub_add_left, offsetBelow_succ (List.cons_ne_nil c rest), ih below outside']

/-- The position of an offset counts the terminators that end up to there, which are the ones of the
lines, and the characters since the last of them. It leads back to the offset, unless that is inside
a return and newline pair. -/
theorem offsetAt_positionAt (text : List Char) (offset : Nat) (le : offset ≤ text.length)
    (outside : ¬ InsidePair text offset) :
    (lineEnds text text.length).length = (lines text).countP (!·.terminator.isEmpty) ∧
      positionAt text offset =
        ⟨1 + (lineEnds text offset).length, offset - lineStart text offset⟩ ∧
      lineStart text offset ≤ offset ∧
      offsetAt text (1 + (lineEnds text offset).length) (offset - lineStart text offset) =
        .ok offset := by
  have start := lineStart_le text offset
  refine ⟨length_lineEnds text, positionAhead_eq 1 text offset, start, ?_⟩
  have column : ((offset : Int) - lineStart text offset).toNat =
      offset - lineStart text offset := by
    omega
  have above : (1 + ((lineEnds text offset).length : Int) - 1).toNat =
      (lineEnds text offset).length := by
    omega
  rw [offsetAt_of_le text (by omega) (by omega), column, above, offsetBelow_lineStart le outside]

theorem offsetAt_positionAt_end :
    let text := "a\r\nb\x0b\n".toList
    6 ≤ text.length ∧ ¬ InsidePair text 6 ∧ InsidePair text 2 ∧ lineEnds text 6 = [3, 5, 6] ∧
      (lines text).countP (!·.terminator.isEmpty) = 3 ∧ positionAt text 6 = ⟨4, 0⟩ ∧
      offsetAt text 4 0 = .ok 6 := by
  intro text
  have le : 6 ≤ text.length := by decide
  have outside : ¬ InsidePair text 6 := by decide
  have ends : lineEnds text 6 = [3, 5, 6] := by decide
  obtain ⟨lines, position, -, found⟩ := offsetAt_positionAt text 6 le outside
  rw [lineStart, ends] at position found
  exact ⟨le, outside, by decide, ends, lines.symm.trans (congrArg List.length ends), position,
    found⟩

end ArgHints.Text
