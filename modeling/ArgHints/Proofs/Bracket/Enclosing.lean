import ArgHints.Proofs.Bracket.ForwardPass
import ArgHints.Proofs.Text.Name
import ArgHints.Snapshot
import Mathlib.Data.Set.Subsingleton

namespace ArgHints

namespace Bracket

/-- An opening bracket of plain code before a cursor, with well nested contents so far. -/
def Encloses (text : List Char) (cursor opener : Nat) : Prop :=
  opener < cursor ∧ (∃ kind, StandsAt text ⟨opener, .opening kind⟩) ∧
    WellNested ((codeBrackets text (opener + 1) cursor).map (·.bracket))

theorem enclosing?_eq_some_iff {text : List Char} {cursor opener : Nat} :
    enclosing? text cursor = some opener ↔ Encloses text cursor opener := by
  constructor
  · intro found
    obtain ⟨kind, stands, high, -, nested⟩ := openStack_of_enclosing? found
    exact ⟨high, ⟨kind, stands⟩, nested⟩
  · rintro ⟨high, ⟨kind, stands⟩, nested⟩
    have split := codeBrackets_split (Nat.zero_le opener) high stands
    exact enclosing?_eq_some_iff_top.mpr
      ⟨kind, _, openStack_eq_opener_cons_iff.mpr ⟨_, _, split, rfl, nested⟩⟩

/-- The search answers with the bracket that encloses the cursor. There is at most one, and the
search has no answer only if there is none. -/
theorem ascent_offset?_iff_encloses (text : List Char) (cursor : Int) :
    (∀ opener, (Snapshot.ofCursor text cursor).ascent.offset? = some opener ↔
        Encloses text (Text.clamp text cursor) opener) ∧
      { opener | Encloses text (Text.clamp text cursor) opener }.Subsingleton ∧
      ((Snapshot.ofCursor text cursor).ascent.offset? = none ↔
        ∀ opener, ¬ Encloses text (Text.clamp text cursor) opener) := by
  change (∀ opener, enclosing? text (Text.clamp text cursor) = some opener ↔ _) ∧ _ ∧
    (enclosing? text (Text.clamp text cursor) = none ↔ _)
  refine ⟨fun opener => enclosing?_eq_some_iff, ?_, ?_⟩
  · intro first encloses second encloses'
    exact Option.some.inj
      ((enclosing?_eq_some_iff.mpr encloses).symm.trans (enclosing?_eq_some_iff.mpr encloses'))
  · simp only [Option.eq_none_iff_forall_ne_some, ne_eq, enclosing?_eq_some_iff]

def Ascent.relocate (move : Nat → Nat) : Ascent → Ascent
  | .enclosed offset => .enclosed (move offset)
  | .topLevel => .topLevel
  | .unbalanced offset kind => .unbalanced (move offset) kind

theorem Ascent.offset?_relocate (move : Nat → Nat) (ascent : Ascent) :
    (ascent.relocate move).offset? = ascent.offset?.map move := by
  cases ascent <;> rfl

theorem climb_relocate (move : Nat → Nat) (pending : List Kind) (brackets : List Placed) :
    climb pending (brackets.map (Placed.relocate move)) =
      (climb pending brackets).relocate move := by
  fun_induction climb pending brackets with
  | case1 => rfl
  | case2 pending offset kind rest ih => rw [← ih]; rfl
  | case3 offset kind rest => rfl
  | case4 offset kind rest pending ih => rw [← ih]; simp [Placed.relocate, climb]
  | case5 offset kind rest awaited pending other =>
      simp [Placed.relocate, climb, other, Ascent.relocate]

theorem enclosing?_eq_of_relocate {text moved : List Char} {cursor cursor' : Nat} {move : Nat → Nat}
    (brackets : codeBrackets moved 0 cursor' =
      (codeBrackets text 0 cursor).map (Placed.relocate move)) :
    enclosing? moved cursor' = (enclosing? text cursor).map move := by
  simp only [enclosing?, ascend, before_eq, brackets, ← List.map_reverse, climb_relocate,
    Ascent.offset?_relocate]

theorem mem_of_enclosing? {text : List Char} {cursor opener : Nat}
    (found : enclosing? text cursor = some opener) :
    ∃ kind, ⟨opener, .opening kind⟩ ∈ codeBrackets text 0 cursor := by
  obtain ⟨kind, stands, high, -⟩ := openStack_of_enclosing? found
  exact ⟨kind, mem_codeBrackets.mpr ⟨Nat.zero_le _, high, stands⟩⟩

theorem isNameChar_toChar (bracket : Bracket) : Text.isNameChar bracket.toChar = false := by
  obtain kind | kind := bracket <;> cases kind <;> rfl

end Bracket

namespace Snapshot

open ArgHints.Bracket

theorem token_ofCursor (text : List Char) (cursor : Nat) :
    (ofCursor text cursor).token = String.ofList (Text.nameAt text cursor) := by
  have same : Text.nameAt text (Text.clamp text cursor) = Text.nameAt text cursor := by
    rw [Text.nameAt_eq, Text.nameBefore, Text.take_clamp, Text.drop_clamp, Text.nameAt_eq,
      Text.nameBefore]
  exact congrArg String.ofList same

theorem ascent_ofCursor (text : List Char) (cursor : Nat) :
    (ofCursor text cursor).ascent = ascend text cursor := by
  change ascend text (Text.clamp text cursor) = _
  rw [ascend, before, Text.take_clamp, ← before, ascend]

theorem nameAt_of_enclosing? {text : List Char} {cursor opener : Nat}
    (found : enclosing? text cursor = some opener) :
    Text.nameAt text opener = Text.nameBefore text opener := by
  obtain ⟨kind, stands, -⟩ := openStack_of_enclosing? found
  exact Text.nameAt_eq_nameBefore stands.2 (isNameChar_toChar _)

theorem call?_ofCursor (text : List Char) (cursor : Nat) :
    (ofCursor text cursor).call? = (enclosing? text cursor).bind fun opener =>
      let name := Text.nameBefore text opener
      if name.isEmpty then none else some (String.ofList name) := by
  rw [call?, ascent_ofCursor]
  apply Option.bind_congr
  intro opener found
  rw [← nameAt_of_enclosing? found]
  rfl

theorem opener_of_call? {snapshot : Snapshot} {name : String}
    (called : snapshot.call? = some name) :
    ∃ opener, enclosing? snapshot.text snapshot.cursor = some opener ∧
      name.toList = Text.nameBefore snapshot.text opener ∧ name ≠ "" := by
  obtain ⟨opener, found, named⟩ := Option.bind_eq_some_iff.mp called
  dsimp only at named
  split at named
  case isTrue => cases named
  case isFalse nonempty =>
    cases named
    refine ⟨opener, found, ?_, by simpa using nonempty⟩
    rw [String.toList_ofList, nameAt_of_enclosing? found]

theorem call?_eq_of_relocate {text moved : List Char} {cursor cursor' : Nat} (move : Nat → Nat)
    (brackets : codeBrackets moved 0 cursor' =
      (codeBrackets text 0 cursor).map (Placed.relocate move))
    (names : ∀ placed ∈ codeBrackets text 0 cursor,
      Text.nameBefore moved (move placed.offset) = Text.nameBefore text placed.offset) :
    (ofCursor moved cursor').call? = (ofCursor text cursor).call? := by
  rw [call?_ofCursor, call?_ofCursor, enclosing?_eq_of_relocate brackets, Option.bind_map]
  apply Option.bind_congr
  intro opener found
  obtain ⟨kind, member⟩ := mem_of_enclosing? found
  simp only [Function.comp_apply, names _ member]

end Snapshot

end ArgHints
