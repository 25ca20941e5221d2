import ArgHints.CommandLine
import ArgHints.Proofs.Service.Payload
import ArgHints.Proofs.Text.Line
import ArgHints.Service

namespace ArgHints

theorem Snapshot.cursor_ofCursor {text : List Char} {offset : Nat} (le : offset ≤ text.length) :
    (ofCursor text offset).cursor = offset :=
  Nat.min_eq_left le

namespace CommandLine

open Service (Checked Field Place Refusal)

theorem unifyNewlines_of_notMem {text : List Char} (unix : '\r' ∉ text) :
    unifyNewlines text = text := by
  have pass : ∀ (rest found : List Char), '\r' ∉ rest →
      rest.foldl (fun (state : List Char × Bool) c =>
        if c == '\r' then ('\n' :: state.1, true)
        else if c == '\n' && state.2 then (state.1, false)
        else (c :: state.1, false)) (found, false) = (rest.reverse ++ found, false) := by
    intro rest
    induction rest with
    | nil => intro found _; rfl
    | cons c rest ih =>
        intro found unix
        rw [List.mem_cons, not_or] at unix
        rw [List.foldl_cons]
        dsimp only
        rw [if_neg (by simpa using Ne.symm unix.1), if_neg (by simp), ih _ unix.2,
          List.reverse_cons, List.append_assoc, List.singleton_append]
  have read := congrArg (fun state => state.1.reverse) (pass text [] unix)
  rw [List.append_nil, List.reverse_reverse] at read
  exact read

theorem readSource_of_notMem {content : List UInt8} {text : List Char}
    (holds : Text.Utf8.decode content = .ok text) (unix : '\r' ∉ text) :
    readSource content = .ok text := by
  rw [readSource, holds, Except.map, unifyNewlines_of_notMem unix]

namespace Aim

def IsOneWay (aim : Aim) : Prop :=
  aim.offset = none ∨ aim.line = none ∧ aim.column = none

structure InBounds (aim : Aim) : Prop where
  offset : ∀ offset ∈ aim.offset, 0 ≤ offset
  line : ∀ line ∈ aim.line, 1 ≤ line
  column : ∀ column ∈ aim.column, 0 ≤ column

def Means (aim : Aim) (text : List Char) (cursor : Nat) : Prop :=
  match aim.offset with
  | some offset => offset = cursor
  | none => ∃ line ∈ aim.line, Text.offsetAt text line (aim.column.getD 0) = .ok cursor

/-- Whether the members of an object say a place in a text, each number in its own field and what is
not given left out. -/
structure IsIn (aim : Aim) (text : List Char) (members : List (String × Json)) : Prop where
  text : Json.member? Field.text.name members = some (.text (String.ofList text))
  offset : Json.member? Field.cursor.name members = aim.offset.map .whole
  line : Json.member? Field.line.name members = aim.line.map .whole
  column : Json.member? Field.column.name members = aim.column.map .whole

def place (aim : Aim) (text : List Char) : Place :=
  ⟨text, aim.offset, aim.line, aim.column.getD 0⟩

variable {aim : Aim} {text : List Char} {members : List (String × Json)}

open Classical in
theorem value?_place (isIn : aim.IsIn text members) :
    (Service.place members).value? = if aim.InBounds then some (aim.place text) else none := by
  have content : (Checked.field members .text none Service.text).value? =
      some (String.ofList text) := Checked.value?_field_of_some isIn.text _ _
  have offset := Service.value?_field_optional_whole isIn.offset 0
  have line := Service.value?_field_optional_whole isIn.line 1
  have column := Service.value?_field_whole isIn.column 0 0
  simp only [Service.place, Checked.value?_apply, content, offset, line, column]
  by_cases bounds : aim.InBounds
  · rw [if_pos bounds, if_pos bounds.offset, if_pos bounds.line, if_pos bounds.column]
    simp [Checked.value?, place]
  · rw [if_neg bounds]
    split_ifs with offset line column
    · exact absurd ⟨offset, line, column⟩ bounds
    all_goals rfl

variable (text)

theorem snapshot_cases (oneWay : aim.IsOneWay) :
    (∃ error, aim.snapshot text = .error error ∧
      (aim.InBounds → ∃ refusal : Refusal, refusal.status = 400 ∧
        (aim.place text).snapshot = .error refusal)) ∨
    ∃ snapshot, aim.snapshot text = .ok snapshot ∧ aim.InBounds ∧
      (aim.place text).snapshot = .ok snapshot ∧ snapshot.text = text ∧
      aim.Means text snapshot.cursor := by
  obtain ⟨offset, line, column⟩ := aim
  cases offset with
  | some offset =>
      obtain ⟨rfl, rfl⟩ : line = none ∧ column = none := by simpa [IsOneWay] using oneWay
      by_cases outside : offset < 0 ∨ text.length < offset
      · refine .inl ⟨.outside offset text.length, ?_, fun bounds => ?_⟩
        · simp [snapshot, outside]
        · have beyond : offset > text.length := outside.resolve_left (by simpa using bounds.offset)
          exact ⟨.cursorOutside offset text.length, rfl, by simp [place, Place.snapshot, beyond]⟩
      · obtain ⟨offset, rfl⟩ := Int.eq_ofNat_of_zero_le (a := offset) (by omega)
        have within : offset ≤ text.length := by omega
        refine .inr ⟨.ofCursor text offset, ?_, ⟨?_, ?_, ?_⟩, ?_, rfl, ?_⟩
        · simp [snapshot, within]
        · simp
        · simp
        · simp
        · simp [place, Place.snapshot, within]
        · simp [Means, Snapshot.cursor_ofCursor within]
  | none =>
    cases line with
    | none => exact .inl ⟨.missing, rfl, fun _ => ⟨.noPosition, rfl, rfl⟩⟩
    | some line =>
      cases found : Text.offsetAt text line (column.getD 0) with
      | error error =>
          refine .inl ⟨.position error, by simp only [snapshot, found], fun bounds => ?_⟩
          have line' : 1 ≤ line := bounds.line line rfl
          have column' : 0 ≤ column.getD 0 := by
            cases column with
            | none => exact Int.le_refl 0
            | some column => exact bounds.column column rfl
          have := Text.lt_of_offsetAt found
          omega
      | ok offset =>
          obtain ⟨line', column', within⟩ := Text.le_of_offsetAt found
          refine .inr ⟨.ofCursor text offset, ?_, ⟨?_, ?_, ?_⟩, ?_, rfl, ?_⟩
          · simp only [snapshot, found]
          · simp
          · simpa using line'
          · rintro _ rfl; exact column'
          · simp only [place, Place.snapshot, found]
          · simp [Means, Snapshot.cursor_ofCursor within, found]

end Aim

end CommandLine

end ArgHints
