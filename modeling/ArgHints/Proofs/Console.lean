import ArgHints.Console
import ArgHints.Proofs.Text.Name

namespace ArgHints.Console

theorem piecesWithin_of_notMem {text : List Char} (noTag : '[' ∉ text) (noEscape : '\\' ∉ text)
    (found : List Char) {fuel : Nat} (enough : text.length < fuel) :
    piecesWithin found 0 fuel text = plainPiece (text.reverse ++ found) := by
  induction text generalizing found fuel with
  | nil =>
      obtain ⟨fuel, rfl⟩ := Nat.exists_eq_add_one_of_ne_zero (Nat.ne_of_gt enough)
      rfl
  | cons c rest ih =>
      obtain ⟨fuel, rfl⟩ := Nat.exists_eq_add_one_of_ne_zero (Nat.ne_zero_of_lt enough)
      rw [List.mem_cons, not_or] at noTag noEscape
      have step : piecesWithin found 0 (fuel + 1) (c :: rest) =
          piecesWithin (c :: found) 0 fuel rest := by
        rw [piecesWithin]
        · simp [Ne.symm noTag.1]
        · exact fun same => absurd same.symm noEscape.1
      rw [step, ih noTag.2 noEscape.2 _ (by simpa using enough), List.reverse_cons,
        List.append_assoc, List.singleton_append]

theorem unescapeBrackets_of_notMem {text : List Char} (noEscape : '\\' ∉ text) :
    unescapeBrackets text = text := by
  induction text with
  | nil => rfl
  | cons c rest ih =>
      rw [List.mem_cons, not_or] at noEscape
      rw [unescapeBrackets, ih noEscape.2]
      rintro rest rfl
      exact absurd rfl noEscape.1

theorem plainPieces?_of_notMem {text : List Char} (noTag : '[' ∉ text) (noEscape : '\\' ∉ text)
    (nonempty : text ≠ []) : plainPieces? [] (pieces text) = some [text] := by
  have piece : pieces text = [.plain text] := by
    rw [pieces, piecesWithin_of_notMem noTag noEscape [] (Nat.lt_succ_self _), List.append_nil,
      plainPiece, if_neg (by simpa using nonempty), List.reverse_reverse]
  rw [piece, plainPieces?, plainPieces?, unescapeBrackets_of_notMem noEscape, Option.map_some]

theorem splitLines_of_notMem {text : List Char} (oneLine : '\n' ∉ text) :
    splitLines text = [text] := by
  induction text with
  | nil => rfl
  | cons c rest ih =>
      rw [List.mem_cons, not_or] at oneLine
      rw [splitLines, List.foldr_cons, ← splitLines, ih oneLine.2]
      simp [Ne.symm oneLine.1]

theorem expandTabs_of_notMem {text : List Char} (noTab : '\t' ∉ text) (column : Nat) :
    expandTabs column text = text := by
  induction text generalizing column with
  | nil => rfl
  | cons c rest ih =>
      rw [List.mem_cons, not_or] at noTab
      rw [expandTabs, ih noTab.2]
      exact fun same => absurd same.symm noTab.1

section

variable {text : List Char} (solid : ∀ c ∈ text, Text.isBlank c = false)

include solid

theorem trimEnd_of_solid : Text.trimEnd text = text :=
  Text.trimEnd_of_last fun c last => solid c (List.mem_of_getLast? last)

theorem firstWord_of_solid : firstWord text = text := by
  have noBlanks : text.takeWhile Text.isBlank = [] := by
    cases text with
    | nil => rfl
    | cons c rest => rw [List.takeWhile_cons_of_neg (by simp [solid c])]
  have whole : text.takeWhile (!Text.isBlank ·) = text :=
    List.takeWhile_eq_self_iff.mpr fun c member => by simp [solid c member]
  simp [firstWord, noBlanks, whole]

theorem wordsWithBlanks_of_solid (nonempty : text ≠ []) :
    wordsWithBlanks text.length text = [text] := by
  cases text with
  | nil => exact absurd rfl nonempty
  | cons c rest =>
      rw [List.length_cons, wordsWithBlanks, firstWord_of_solid solid, List.drop_length]
      cases rest <;> rfl

theorem wrap_of_solid (nonempty : text ≠ []) (short : text.length ≤ columns) :
    wrap text = [text] := by
  have noTab : '\t' ∉ text := fun tab => absurd (solid _ tab) (by decide)
  have crop : cropEnd text = text := by simp [cropEnd, trimEnd_of_solid solid]
  have fits : Filling.add ⟨[], []⟩ text = ⟨[], text⟩ := by
    simp [Filling.add, trimEnd_of_solid solid, short]
  rw [wrap, expandTabs_of_notMem noTab, wordsWithBlanks_of_solid solid nonempty, List.foldl_cons,
    List.foldl_nil, fits, List.reverse_singleton, List.map_singleton, crop]

end

theorem isNameChar_of_isControl {c : Char} (control : isControl c = true) :
    Text.isNameChar c = false := by
  simp only [isControl, Bool.or_eq_true, beq_iff_eq] at control
  rcases control with (((rfl | rfl) | rfl) | rfl) | rfl <;> decide +kernel

/-- A name without emoji codes that fits on a line is shown as it is. -/
theorem markup?_terminal_of_name {name : String}
    (named : ∀ c ∈ name.toList, Text.isNameChar c = true) (nonempty : name ≠ "")
    (noEmoji : replaceEmoji name.toList = name.toList) (short : name.length ≤ columns) :
    terminal.markup? name = some (name ++ "\n") := by
  have free : ∀ {c}, Text.isNameChar c = false → c ∉ name.toList := by
    intro c other member
    rw [named c member] at other
    cases other
  have solid : ∀ c ∈ name.toList, Text.isBlank c = false := by
    intro c member
    rw [← Bool.not_eq_true]
    exact fun blank => free (Text.isNameChar_of_isBlank blank) member
  have noControl : name.toList.filter (!isControl ·) = name.toList := by
    rw [List.filter_eq_self]
    intro c member
    rw [Bool.not_eq_true', ← Bool.not_eq_true]
    exact fun control => free (isNameChar_of_isControl control) member
  have nonempty' : name.toList ≠ [] := by simpa using nonempty
  have oneLine : splitLines name.toList = [name.toList] :=
    splitLines_of_notMem (free (by decide +kernel))
  have line : wrap name.toList = [name.toList] :=
    wrap_of_solid solid nonempty' (by rwa [String.length_toList])
  have pieces : plainPieces? [] (pieces name.toList) = some [name.toList] :=
    plainPieces?_of_notMem (free (by decide +kernel)) (free (by decide +kernel)) nonempty'
  have shown : layout [name.toList] = name ++ "\n" := by
    simp [layout, noEmoji, noControl, oneLine, line]
  simp only [terminal, showMarkup?, pieces, Option.map_some, shown]

end ArgHints.Console
