import ArgHints.Bracket.Mode
import Mathlib.Data.List.Basic

/-!
# The lexer as an automaton

The lexer jumps over literals and comments; the automaton of lexical modes takes one character at a
time. Both find the same brackets:

* `scan_eq_collect`: a jump passes over exactly the characters that the automaton reads outside
  plain code.
* `before_eq`: the brackets before a cursor are those that stand in plain code there, offset by
  offset. What stands at an offset depends on the text up to it only, so the brackets before a
  cursor begin with the brackets before any smaller one.
-/

namespace ArgHints.Bracket

/-! ## One character at a time -/

def Mode.bracket? : Mode → Char → Option Bracket
  | .code, c => ofChar? c
  | _, _ => none

/-- The brackets of plain code in a text read from a mode on, in ascending order. The text starts at
`offset`. -/
def Mode.collect (mode : Mode) (offset : Nat) : List Char → List Placed
  | [] => []
  | c :: rest =>
    ((mode.bracket? c).map (Placed.mk offset)).toList ++ (mode.next c).collect (offset + 1) rest

theorem Mode.collect_append (mode : Mode) (offset : Nat) (text rest : List Char) :
    mode.collect offset (text ++ rest) =
      mode.collect offset text ++ (text.foldl next mode).collect (offset + text.length) rest := by
  induction text generalizing mode offset with
  | nil => rfl
  | cons c text ih =>
      simp only [List.cons_append, collect, ih, List.foldl_cons, List.length_cons,
        List.append_assoc, Nat.add_right_comm, Nat.add_assoc]

/-! ## Jumps -/

theorem Quote.collect_skip (quote : Quote) (offset : Nat) (text : List Char) :
    (Mode.literal quote).collect offset text =
      Mode.code.collect (quote.skip offset text).1 (quote.skip offset text).2 := by
  fun_induction Quote.skip quote offset text with
  | case1 => rfl
  | case2 => rfl
  | case3 offset c d rest escape ih =>
      rw [← ih]
      simp [Mode.collect, Mode.bracket?, Mode.next, escape]
  | case4 offset c d rest plain closes =>
      simp [Mode.collect, Mode.bracket?, Mode.next, plain, closes]
  | case5 offset c d rest plain inside ih =>
      rw [← ih]
      simp [Mode.collect, Mode.bracket?, Mode.next, plain, inside]

theorem collect_skipComment (offset : Nat) (text : List Char) :
    Mode.comment.collect offset text =
      Mode.code.collect (skipComment offset text).1 (skipComment offset text).2 := by
  fun_induction skipComment offset text with
  | case1 => rfl
  | case2 offset c rest newline => simp [Mode.collect, Mode.bracket?, Mode.next, newline]
  | case3 offset c rest inside ih =>
      rw [← ih]
      simp [Mode.collect, Mode.bracket?, Mode.next, inside]

theorem Cover.collect_skip (cover : Cover) (offset : Nat) (text : List Char) :
    (Mode.ofCover cover).collect offset text =
      Mode.code.collect (cover.skip offset text).1 (cover.skip offset text).2 := by
  cases cover with
  | literal quote => exact quote.collect_skip offset text
  | comment => exact collect_skipComment offset text

theorem ofChar?_eq_none_of_cover {c : Char} {cover : Cover}
    (starts : Cover.ofChar? c = some cover) : ofChar? c = none := by
  unfold Cover.ofChar? at starts
  split at starts
  all_goals first | rfl | contradiction

theorem scan_eq_collect (offset : Nat) (found : List Placed) (text : List Char) :
    scan offset found text = (Mode.code.collect offset text).reverse ++ found := by
  fun_induction scan offset found text with
  | case1 => rfl
  | case2 offset found c rest cover starts after ih =>
      rw [ih, ← cover.collect_skip]
      simp [Mode.collect, Mode.bracket?, Mode.next, starts, ofChar?_eq_none_of_cover starts]
  | case3 offset found c rest plain bracket stands ih =>
      simp [ih, Mode.collect, Mode.bracket?, Mode.next, plain, stands]
  | case4 offset found c rest plain other ih =>
      simp [ih, Mode.collect, Mode.bracket?, Mode.next, plain, other]

/-! ## Offset by offset -/

def codeBracket? (text : List Char) (offset : Nat) : Option Bracket :=
  text[offset]?.bind (Mode.after (text.take offset)).bracket?

def codeBrackets (text : List Char) (start stop : Nat) : List Placed :=
  (List.range' start (stop - start)).filterMap fun offset =>
    (codeBracket? text offset).map (Placed.mk offset)

theorem ofChar?_eq_some_iff {c : Char} {bracket : Bracket} :
    ofChar? c = some bracket ↔ c = bracket.toChar := by
  constructor
  · intro known
    unfold ofChar? at known
    split at known <;> cases known <;> rfl
  · rintro rfl
    exact ofChar?_toChar bracket

theorem Mode.bracket?_eq_some_iff {mode : Mode} {c : Char} {bracket : Bracket} :
    mode.bracket? c = some bracket ↔ mode = .code ∧ c = bracket.toChar := by
  cases mode <;> simp [bracket?, ofChar?_eq_some_iff]

theorem codeBracket?_eq_some_iff {text : List Char} {offset : Nat} {bracket : Bracket} :
    codeBracket? text offset = some bracket ↔ StandsAt text ⟨offset, bracket⟩ := by
  simp only [codeBracket?, StandsAt, Mode.IsCodeAt, Option.bind_eq_some_iff,
    Mode.bracket?_eq_some_iff]
  constructor
  · rintro ⟨c, found, code, rfl⟩
    exact ⟨code, found⟩
  · rintro ⟨code, found⟩
    exact ⟨_, found, code, rfl⟩

theorem mem_codeBrackets {text : List Char} {start stop : Nat} {placed : Placed} :
    placed ∈ codeBrackets text start stop ↔
      start ≤ placed.offset ∧ placed.offset < stop ∧ StandsAt text placed := by
  obtain ⟨offset, bracket⟩ := placed
  simp only [codeBrackets, List.mem_filterMap, List.mem_range'_1, Option.map_eq_some_iff,
    Placed.mk.injEq, codeBracket?_eq_some_iff]
  constructor
  · rintro ⟨_, ⟨low, high⟩, _, stands, rfl, rfl⟩
    exact ⟨low, by omega, stands⟩
  · rintro ⟨low, high, stands⟩
    exact ⟨offset, ⟨low, by omega⟩, bracket, stands, rfl, rfl⟩

theorem codeBrackets_sorted (text : List Char) (start stop : Nat) :
    ((codeBrackets text start stop).map (·.offset)).Pairwise (· < ·) := by
  rw [List.pairwise_map, codeBrackets, List.pairwise_filterMap]
  refine List.Pairwise.imp ?_ List.pairwise_lt_range'
  simp only [Option.map_eq_some_iff]
  rintro i j less _ ⟨_, _, rfl⟩ _ ⟨_, _, rfl⟩
  exact less

theorem codeBrackets_append (text : List Char) {start middle stop : Nat}
    (low : start ≤ middle) (high : middle ≤ stop) :
    codeBrackets text start middle ++ codeBrackets text middle stop =
      codeBrackets text start stop := by
  have split : List.range' start (stop - start) =
      List.range' start (middle - start) ++ List.range' middle (stop - middle) := by
    rw [show stop - start = (middle - start) + (stop - middle) by omega, ← List.range'_append_1,
      show start + (middle - start) = middle by omega]
  simp only [codeBrackets, split, List.filterMap_append]

theorem codeBrackets_self_succ (text : List Char) (offset : Nat) :
    codeBrackets text offset (offset + 1) =
      ((codeBracket? text offset).map (Placed.mk offset)).toList := by
  rw [codeBrackets, Nat.add_sub_cancel_left, List.range'_one, List.filterMap_cons]
  cases codeBracket? text offset <;> rfl

theorem codeBrackets_split {text : List Char} {start stop : Nat} {placed : Placed}
    (low : start ≤ placed.offset) (high : placed.offset < stop) (stands : StandsAt text placed) :
    codeBrackets text start stop = codeBrackets text start placed.offset ++
      placed :: codeBrackets text (placed.offset + 1) stop := by
  rw [← codeBrackets_append text low (Nat.le_of_lt high),
    ← codeBrackets_append text (Nat.le_succ placed.offset) high, codeBrackets_self_succ,
    codeBracket?_eq_some_iff.mpr stands]
  rfl

theorem codeBrackets_eq_append_cons {text : List Char} {start stop : Nat}
    {outer inner : List Placed} {placed : Placed}
    (split : codeBrackets text start stop = outer ++ placed :: inner) :
    (placed.offset < stop ∧ StandsAt text placed) ∧
      outer = codeBrackets text start placed.offset ∧
      inner = codeBrackets text (placed.offset + 1) stop := by
  have member : placed ∈ codeBrackets text start stop := by simp [split]
  obtain ⟨low, high, stands⟩ := mem_codeBrackets.mp member
  have notBefore : placed ∉ codeBrackets text start placed.offset := fun mem =>
    Nat.lt_irrefl _ (mem_codeBrackets.mp mem).2.1
  have notAfter : placed ∉ codeBrackets text (placed.offset + 1) stop := fun mem =>
    Nat.not_succ_le_self _ (mem_codeBrackets.mp mem).1
  have same := (codeBrackets_split low high stands).symm.trans split
  obtain ⟨sameOuter, -, sameInner⟩ := (List.append_cons_inj_of_notMem notBefore notAfter).mp same
  exact ⟨⟨high, stands⟩, sameOuter.symm, sameInner.symm⟩

theorem collect_take (text : List Char) (cursor : Nat) :
    Mode.code.collect 0 (text.take cursor) = codeBrackets text 0 cursor := by
  induction cursor with
  | zero => rfl
  | succ cursor ih =>
      rw [← codeBrackets_append text (Nat.zero_le cursor) (Nat.le_succ cursor),
        codeBrackets_self_succ, ← ih, List.take_add_one, Mode.collect_append]
      congr 1
      cases found : text[cursor]? with
      | none => simp [codeBracket?, found, Mode.collect]
      | some c =>
          obtain ⟨bound, -⟩ := List.getElem?_eq_some_iff.mp found
          simp [codeBracket?, found, Mode.collect, Mode.after, Nat.min_eq_left (Nat.le_of_lt bound)]

theorem before_eq (text : List Char) (cursor : Nat) :
    before text cursor = (codeBrackets text 0 cursor).reverse := by
  rw [before, scan_eq_collect, collect_take, List.append_nil]

theorem offsetsBefore_eq (text : List Char) (cursor : Nat) :
    offsetsBefore text cursor = (codeBrackets text 0 cursor).map (·.offset) := by
  rw [offsetsBefore, before_eq, List.map_reverse, List.reverse_reverse]

/-! ## Texts after each other -/

def Placed.relocate (move : Nat → Nat) (placed : Placed) : Placed :=
  ⟨move placed.offset, placed.bracket⟩

theorem Mode.after_append (front rest : List Char) :
    after (front ++ rest) = rest.foldl next (after front) := by
  rw [after, List.foldl_append, ← after]

theorem codeBracket?_append_left {front : List Char} (rest : List Char) {offset : Nat}
    (lt : offset < front.length) :
    codeBracket? (front ++ rest) offset = codeBracket? front offset := by
  rw [codeBracket?, List.getElem?_append_left lt, List.take_append_of_le_length (Nat.le_of_lt lt),
    codeBracket?]

theorem codeBracket?_append_right {front : List Char} (code : Mode.after front = .code)
    (rest : List Char) (offset : Nat) :
    codeBracket? (front ++ rest) (front.length + offset) = codeBracket? rest offset := by
  have mode : Mode.after (front ++ rest.take offset) = Mode.after (rest.take offset) := by
    rw [Mode.after_append, code, Mode.after]
  rw [codeBracket?, List.getElem?_append_right (Nat.le_add_right _ _), Nat.add_sub_cancel_left,
    List.take_length_add_append, mode, codeBracket?]

theorem codeBrackets_append_left {front : List Char} (rest : List Char) {start stop : Nat}
    (le : stop ≤ front.length) :
    codeBrackets (front ++ rest) start stop = codeBrackets front start stop := by
  apply List.filterMap_congr
  intro offset member
  obtain ⟨low, high⟩ := List.mem_range'_1.mp member
  rw [codeBracket?_append_left rest (by omega)]

theorem codeBrackets_append_right {front : List Char} (code : Mode.after front = .code)
    (rest : List Char) (cursor : Nat) :
    codeBrackets (front ++ rest) front.length (front.length + cursor) =
      (codeBrackets rest 0 cursor).map (Placed.relocate (front.length + ·)) := by
  simp only [codeBrackets, Nat.add_sub_cancel_left, Nat.sub_zero, List.map_filterMap]
  conv_lhs => rw [← Nat.add_zero front.length, ← List.map_add_range']
  rw [List.filterMap_map]
  apply List.filterMap_congr
  intro offset _
  simp only [Function.comp_apply, codeBracket?_append_right code, Option.map_map]
  rfl

theorem codeBrackets_append_text {front : List Char} (code : Mode.after front = .code)
    (rest : List Char) (cursor : Nat) :
    codeBrackets (front ++ rest) 0 (front.length + cursor) =
      codeBrackets front 0 front.length ++
        (codeBrackets rest 0 cursor).map (Placed.relocate (front.length + ·)) := by
  rw [← codeBrackets_append_left rest (Nat.le_refl front.length),
    ← codeBrackets_append_right code, codeBrackets_append _ (Nat.zero_le _) (Nat.le_add_right _ _)]

/-! ## The offsets before a cursor -/

theorem mem_offsetsBefore {text : List Char} {cursor offset : Nat} :
    offset ∈ offsetsBefore text cursor ↔
      offset < cursor ∧ ∃ bracket, StandsAt text ⟨offset, bracket⟩ := by
  simp only [offsetsBefore_eq, List.mem_map, mem_codeBrackets]
  constructor
  · rintro ⟨placed, ⟨-, high, stands⟩, rfl⟩
    exact ⟨high, placed.bracket, stands⟩
  · rintro ⟨high, bracket, stands⟩
    exact ⟨⟨offset, bracket⟩, ⟨Nat.zero_le _, high, stands⟩, rfl⟩

theorem offsetsBefore_filter_lt (text : List Char) {cut cursor : Nat} (le : cut ≤ cursor) :
    (offsetsBefore text cursor).filter (· < cut) = offsetsBefore text cut := by
  simp only [offsetsBefore_eq, ← codeBrackets_append text (Nat.zero_le cut) le, List.map_append,
    List.filter_append]
  have kept : ∀ offset ∈ (codeBrackets text 0 cut).map (·.offset), decide (offset < cut) := by
    simp only [List.mem_map, mem_codeBrackets]
    rintro _ ⟨placed, ⟨-, high, -⟩, rfl⟩
    exact decide_eq_true high
  have dropped : ∀ offset ∈ (codeBrackets text cut cursor).map (·.offset),
      ¬ decide (offset < cut) := by
    simp only [List.mem_map, mem_codeBrackets, decide_eq_true_eq]
    rintro _ ⟨placed, ⟨low, -, -⟩, rfl⟩
    exact Nat.not_lt.mpr low
  rw [List.filter_eq_self.mpr kept, List.filter_eq_nil_iff.mpr dropped, List.append_nil]

/-- The offsets before a cursor ascend, they are those of the brackets that stand in plain code, and
a smaller cursor only cuts them off. -/
theorem offsetsBefore_exact (text : List Char) (cursor : Nat) :
    (offsetsBefore text cursor).Pairwise (· < ·) ∧
      (∀ offset, offset ∈ offsetsBefore text cursor ↔
        offset < cursor ∧ ∃ bracket, StandsAt text ⟨offset, bracket⟩) ∧
      ∀ cut ≤ cursor, offsetsBefore text cut = (offsetsBefore text cursor).filter (· < cut) := by
  refine ⟨?_, fun offset => mem_offsetsBefore, fun cut le => (offsetsBefore_filter_lt text le).symm⟩
  rw [offsetsBefore_eq]
  exact codeBrackets_sorted text 0 cursor

theorem offsetsBefore_cut_in_escape :
    4 ≤ 16 ∧ offsetsBefore "f(\"\\\")\", x # (\n[".toList 16 = [1, 15] ∧
      offsetsBefore "f(\"\\\")\", x # (\n[".toList 4 =
        (offsetsBefore "f(\"\\\")\", x # (\n[".toList 16).filter (· < 4) := by
  refine ⟨by decide, ?_, (offsetsBefore_exact _ 16).2.2 4 (by decide)⟩
  rw [offsetsBefore_eq]
  decide

end ArgHints.Bracket
