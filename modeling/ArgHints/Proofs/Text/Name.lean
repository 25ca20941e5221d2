import ArgHints.Proofs.Text.Blank
import ArgHints.Text
import Mathlib.Data.List.DropRight

namespace ArgHints.Text

def nameBefore (text : List Char) (offset : Nat) : List Char :=
  (text.take offset).rtakeWhile isNameChar

theorem clamp_natCast (text : List Char) (offset : Nat) :
    clamp text offset = min offset text.length := rfl

theorem take_clamp (text : List Char) (offset : Nat) :
    text.take (clamp text offset) = text.take offset := by
  rw [clamp_natCast, ← List.take_eq_take_min]

theorem drop_clamp (text : List Char) (offset : Nat) :
    text.drop (clamp text offset) = text.drop offset := by
  rw [clamp_natCast, ← List.drop_eq_drop_min]

theorem Span.slice_append (front middle back : List Char) :
    Span.slice ⟨front.length, front.length + middle.length⟩ (front ++ (middle ++ back)) =
      middle := by
  rw [slice, List.drop_left, Nat.add_sub_cancel_left, List.take_left]

theorem eq_around_name (text : List Char) {offset : Nat} (le : offset ≤ text.length) :
    text = (text.take offset).rdropWhile isNameChar ++
        ((nameBefore text offset ++ (text.drop offset).takeWhile isNameChar) ++
          (text.drop offset).dropWhile isNameChar) ∧
      ((text.take offset).rdropWhile isNameChar).length + (nameBefore text offset).length =
        offset := by
  have left : (text.take offset).rdropWhile isNameChar ++ nameBefore text offset =
      text.take offset := List.rdropWhile_append_rtakeWhile
  constructor
  · rw [List.append_assoc, List.takeWhile_append_dropWhile, ← List.append_assoc, left,
      List.take_append_drop]
  · rw [← List.length_append, left, List.length_take, Nat.min_eq_left le]

theorem nameSpan_eq (text : List Char) (offset : Nat) :
    nameSpan text offset = ⟨offset - (nameBefore text offset).length,
      offset + ((text.drop offset).takeWhile isNameChar).length⟩ := by
  rw [nameSpan, nameBefore, List.rtakeWhile, List.length_reverse]

theorem slice_nameSpan (text : List Char) {offset : Nat} (le : offset ≤ text.length) :
    (nameSpan text offset).slice text =
      nameBefore text offset ++ (text.drop offset).takeWhile isNameChar := by
  let front := (text.take offset).rdropWhile isNameChar
  let behind := (text.drop offset).takeWhile isNameChar
  let back := (text.drop offset).dropWhile isNameChar
  obtain ⟨parts, lengths⟩ := eq_around_name text le
  have span : nameSpan text offset =
      ⟨front.length, front.length + (nameBefore text offset ++ behind).length⟩ := by
    simp only [nameSpan_eq, List.length_append, Span.mk.injEq, front, behind]
    exact ⟨by omega, by omega⟩
  calc (nameSpan text offset).slice text
      = (nameSpan text offset).slice (front ++ ((nameBefore text offset ++ behind) ++ back)) := by
        rw [← parts]
    _ = nameBefore text offset ++ behind := by rw [span, Span.slice_append]

theorem nameAt_eq (text : List Char) (offset : Nat) :
    nameAt text offset = nameBefore text offset ++ (text.drop offset).takeWhile isNameChar := by
  have bound : clamp text offset ≤ text.length := Nat.min_le_right _ _
  rw [nameAt, slice_nameSpan text bound, nameBefore, take_clamp, drop_clamp, nameBefore]

theorem nameAt_eq_nameBefore {text : List Char} {offset : Nat} {c : Char}
    (here : text[offset]? = some c) (other : isNameChar c = false) :
    nameAt text offset = nameBefore text offset := by
  obtain ⟨bound, rfl⟩ := List.getElem?_eq_some_iff.mp here
  rw [nameAt_eq, List.drop_eq_getElem_cons bound, List.takeWhile_cons_of_neg (by simp [other]),
    List.append_nil]

theorem rtakeWhile_append_concat {p : Char → Bool} {last : Char} (other : p last = false)
    (start rest : List Char) : ((start ++ [last]) ++ rest).rtakeWhile p = rest.rtakeWhile p := by
  induction rest using List.reverseRecOn with
  | nil => rw [List.append_nil, List.rtakeWhile_concat, other]; rfl
  | append_singleton rest c ih =>
      rw [← List.append_assoc, List.rtakeWhile_concat, List.rtakeWhile_concat, ih]

theorem nameBefore_append {front : List Char} (rest : List Char) (offset : Nat)
    (stop : ∀ c ∈ front.getLast?, isNameChar c = false) :
    nameBefore (front ++ rest) (front.length + offset) = nameBefore rest offset := by
  rw [nameBefore, List.take_length_add_append, nameBefore]
  rcases List.eq_nil_or_concat front with rfl | ⟨start, last, rfl⟩
  · rfl
  · rw [List.concat_eq_append] at stop ⊢
    exact rtakeWhile_append_concat (stop last (by simp)) start _

theorem nameBefore_append_left {front : List Char} (rest : List Char) {offset : Nat}
    (le : offset ≤ front.length) :
    nameBefore (front ++ rest) offset = nameBefore front offset := by
  rw [nameBefore, List.take_append_of_le_length le, nameBefore]

structure IsRun (front name back : List Char) : Prop where
  named : ∀ c ∈ name, isNameChar c = true
  before : ∀ c ∈ front.getLast?, isNameChar c = false
  behind : ∀ c ∈ back.head?, isNameChar c = false

theorem mem_nameBefore {text : List Char} {offset : Nat} {c : Char}
    (member : c ∈ nameBefore text offset) : isNameChar c = true :=
  List.mem_rtakeWhile_imp member

theorem isRun_nameAt (text : List Char) {offset : Nat} (le : offset ≤ text.length) :
    ∃ front back, text = front ++ nameAt text offset ++ back ∧
      IsRun front (nameAt text offset) back ∧
      front.length + (nameBefore text offset).length = offset := by
  obtain ⟨parts, lengths⟩ := eq_around_name text le
  rw [← nameAt_eq, ← List.append_assoc] at parts
  refine ⟨_, _, parts, ⟨?_, ?_, ?_⟩, lengths⟩
  · intro c member
    rw [nameAt_eq, List.mem_append] at member
    rcases member with before | after
    · exact mem_nameBefore before
    · exact List.mem_takeWhile_imp after
  · exact fun c last => not_of_mem_getLast?_rdropWhile last
  · exact fun c first => not_of_mem_head?_dropWhile first

def marks : List Char :=
  "\"'`()[]\x7b\x7d#=\x00".toList

def blankCodes : List Nat :=
  List.range' 0x09 5 ++ List.range' 0x1c 5 ++ List.range' 0x2000 11 ++
    [0x85, 0xa0, 0x1680, 0x2028, 0x2029, 0x202f, 0x205f, 0x3000]

theorem mem_blankCodes {c : Char} (blank : isBlank c = true) : c.toNat ∈ blankCodes := by
  simp only [isBlank, Bool.or_eq_true, Bool.and_eq_true, decide_eq_true_eq, beq_iff_eq] at blank
  simp only [blankCodes, List.mem_append, List.mem_range'_1, List.mem_cons, List.not_mem_nil]
  omega

theorem isNameChar_of_isBlank {c : Char} (blank : isBlank c = true) : isNameChar c = false := by
  have none : ∀ n ∈ blankCodes, isNameChar (Char.ofNat n) = false := by decide +kernel
  rw [← Char.ofNat_toNat c]
  exact none _ (mem_blankCodes blank)

theorem isNameChar_of_mem_marks {c : Char} (mark : c ∈ marks) : isNameChar c = false := by
  have none : marks.all (fun c => !isNameChar c) = true := by decide +kernel
  simpa using List.all_eq_true.mp none c mark

end ArgHints.Text
