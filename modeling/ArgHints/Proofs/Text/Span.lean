import ArgHints.Proofs.Text.Name

namespace ArgHints.Text

namespace Span

/-- Whether a stretch of a text is a maximal run of name characters, possibly an empty one. -/
structure IsName (span : Span) (text : List Char) : Prop where
  start_le : span.start ≤ span.stop
  stop_le : span.stop ≤ text.length
  run : IsRun (text.take span.start) (span.slice text) (text.drop span.stop)

def Touches (span : Span) (offset : Nat) : Prop :=
  span.start ≤ offset ∧ offset ≤ span.stop

namespace IsName

variable {text : List Char} {span span' : Span}

theorem isNameChar_of_lt (name : span.IsName text) {index : Nat} {c : Char}
    (here : text[index]? = some c) (le : span.start ≤ index) (lt : index < span.stop) :
    isNameChar c = true := by
  apply name.run.named
  apply List.mem_of_getElem? (i := index - span.start)
  rw [slice, List.getElem?_take_of_lt (by omega), List.getElem?_drop, Nat.add_sub_cancel' le, here]

theorem start_le_of_meet (name : span.IsName text) (name' : span'.IsName text)
    (meet : span'.start ≤ span.stop) : span'.start ≤ span.start := by
  by_contra past
  have within := name.stop_le
  have bound : span'.start - 1 < text.length := by omega
  have here := List.getElem?_eq_getElem bound
  have named := name.isNameChar_of_lt here (by omega) (by omega)
  have last : text[span'.start - 1] ∈ (text.take span'.start).getLast? := by
    rw [List.getLast?_take, if_neg (by omega), here]
    rfl
  rw [name'.run.before _ last] at named
  cases named

theorem stop_le_of_meet (name : span.IsName text) (name' : span'.IsName text)
    (meet : span.start ≤ span'.stop) : span.stop ≤ span'.stop := by
  by_contra past
  have within := name.stop_le
  have bound : span'.stop < text.length := by omega
  have here := List.getElem?_eq_getElem bound
  have named := name.isNameChar_of_lt here meet (by omega)
  have first : text[span'.stop] ∈ (text.drop span'.stop).head? := by
    rw [List.head?_drop, here]
    rfl
  rw [name'.run.behind _ first] at named
  cases named

theorem eq_of_meet (name : span.IsName text) (name' : span'.IsName text)
    (meet : span'.start ≤ span.stop) (meet' : span.start ≤ span'.stop) : span = span' := by
  have start :=
    Nat.le_antisymm (name'.start_le_of_meet name meet') (name.start_le_of_meet name' meet)
  have stop := Nat.le_antisymm (name.stop_le_of_meet name' meet') (name'.stop_le_of_meet name meet)
  obtain ⟨first, last⟩ := span
  exact Span.mk.injEq .. ▸ ⟨start, stop⟩

end IsName

end Span

theorem IsRun.isName {front name back : List Char} (run : IsRun front name back) :
    (⟨front.length, front.length + name.length⟩ : Span).IsName (front ++ (name ++ back)) := by
  refine ⟨Nat.le_add_right _ _, ?_, ?_⟩
  · simp only [List.length_append]
    omega
  · rw [Span.slice_append, List.take_left, ← List.append_assoc, ← List.length_append,
      List.drop_left]
    exact run

theorem isName_nameSpan (text : List Char) {offset : Nat} (le : offset ≤ text.length) :
    (nameSpan text offset).IsName text := by
  obtain ⟨front, back, parts, run, lengths⟩ := isRun_nameAt text le
  have span : nameSpan text offset =
      ⟨front.length, front.length + (nameAt text offset).length⟩ := by
    simp only [nameSpan_eq, nameAt_eq, List.length_append, Span.mk.injEq]
    exact ⟨by omega, by omega⟩
  have name := run.isName
  rw [← List.append_assoc, ← parts, ← span] at name
  exact name

theorem touches_nameSpan (text : List Char) (offset : Nat) :
    (nameSpan text offset).Touches offset :=
  ⟨Nat.sub_le _ _, Nat.le_add_right _ _⟩

theorem nameSpan_eq_iff {text : List Char} {offset : Nat} (le : offset ≤ text.length)
    (span : Span) : nameSpan text offset = span ↔ span.IsName text ∧ span.Touches offset := by
  have here := touches_nameSpan text offset
  constructor
  · rintro rfl
    exact ⟨isName_nameSpan text le, here⟩
  · rintro ⟨name, touches⟩
    apply (isName_nameSpan text le).eq_of_meet name
    · exact touches.1.trans here.2
    · exact here.1.trans touches.2

/-- The name at a cursor is the only maximal run of name characters that touches it, and the name at
any other cursor that it touches. The names at two cursors are the same or apart from each other. -/
theorem nameSpan_partitions (text : List Char) (cursor : Int) :
    let span := nameSpan text (clamp text cursor)
    nameAt text cursor = span.slice text ∧
      (∀ other : Span, span = other ↔ other.IsName text ∧ other.Touches (clamp text cursor)) ∧
      (∀ cursor' : Int, span.start ≤ cursor' → cursor' ≤ span.stop →
        nameSpan text (clamp text cursor') = span) ∧
      ∀ cursor' : Int,
        let span' := nameSpan text (clamp text cursor')
        span = span' ∨ span.stop < span'.start ∨ span'.stop < span.start := by
  intro span
  have within : ∀ cursor, clamp text cursor ≤ text.length := fun _ => Nat.min_le_right _ _
  have name := isName_nameSpan text (within cursor)
  refine ⟨rfl, nameSpan_eq_iff (within cursor), fun cursor' from_ upto => ?_, fun cursor' => ?_⟩
  · have offset : clamp text cursor' = cursor'.toNat := by
      have bound : span.stop ≤ text.length := name.stop_le
      rw [clamp]
      omega
    refine (nameSpan_eq_iff (within cursor') span).mpr ⟨name, ?_⟩
    rw [offset]
    exact ⟨by omega, by omega⟩
  · intro span'
    by_cases meet : span'.start ≤ span.stop ∧ span.start ≤ span'.stop
    · exact .inl (name.eq_of_meet (isName_nameSpan text (within cursor')) meet.1 meet.2)
    · omega

theorem nameSpan_partitions_of_call :
    let text := "f(a::b)".toList
    let span : Span := ⟨2, 6⟩
    nameSpan text (clamp text 5) = span ∧ (2 : Int) ≤ 6 ∧ (6 : Int) ≤ 6 ∧
      nameSpan text (clamp text 6) = span ∧
      nameSpan text (clamp text 9) = ⟨7, 7⟩ ∧ span.stop < 7 := by
  intro text span
  have here : nameSpan text (clamp text 5) = span := by decide +kernel
  have past : nameSpan text (clamp text 9) = ⟨7, 7⟩ := by decide +kernel
  obtain ⟨-, -, same, apart⟩ := nameSpan_partitions text 5
  have again := same 6 (by rw [here]; decide) (by rw [here]; decide)
  have behind := apart 9
  rw [here, past] at behind
  rw [here] at again
  refine ⟨here, by decide, by decide, again, past, ?_⟩
  exact (behind.resolve_left (by decide)).resolve_right (by decide)

end ArgHints.Text
