import ArgHints.Service.Payload
import Mathlib.Data.Option.Basic

namespace ArgHints.Service

namespace Checked

variable {α β : Type} {checked : Checked α} {members : List (String × Json)} {key : Field}

def value? : Checked α → Option α
  | sound value => some value
  | faulty _ => none

theorem value?_eq_some {value : α} : checked.value? = some value ↔ checked = .sound value := by
  cases checked <;> simp [value?]

theorem value?_eq_none : checked.value? = none ↔ ∃ faults, checked = .faulty faults := by
  cases checked <;> simp [value?]

theorem value?_apply (function : Checked (α → β)) (argument : Checked α) :
    (function.apply argument).value? =
      function.value?.bind fun f => argument.value?.map f := by
  cases function <;> cases argument <;> rfl

theorem value?_field_of_some {json : Json} (given : Json.member? key.name members = some json)
    (default : Option α) (read : Json → Except Defect α) :
    (field members key default read).value? = (read json).toOption := by
  simp only [field, given]
  cases read json <;> rfl

theorem value?_field_of_none (absent : Json.member? key.name members = none)
    (default : Option α) (read : Json → Except Defect α) :
    (field members key default read).value? = default := by
  simp only [field, absent]
  cases default <;> rfl

end Checked

theorem toOption_whole (least value : Int) :
    (whole least (.whole value)).toOption = if least ≤ value then some value else none := by
  rw [whole]
  by_cases small : value < least
  · rw [if_neg (by omega)]
    simp [bind, Except.bind, small, Except.toOption]
  · rw [if_pos (by omega)]
    simp [bind, Except.bind, small, Except.toOption]

variable {members : List (String × Json)} {key : Field} {number : Option Int}
  (given : Json.member? key.name members = number.map .whole)

include given

theorem value?_field_whole (least default : Int) :
    (Checked.field members key (some default) (whole least)).value? =
      if ∀ value ∈ number, least ≤ value then some (number.getD default) else none := by
  cases number with
  | none => simp [Checked.value?_field_of_none given]
  | some value => simp [Checked.value?_field_of_some given, toOption_whole]

theorem value?_field_optional_whole (least : Int) :
    (Checked.field members key (some none) (optional (whole least))).value? =
      if ∀ value ∈ number, least ≤ value then some number else none := by
  cases number with
  | none => simp [Checked.value?_field_of_none given]
  | some value =>
      have read : optional (whole least) (.whole value) = (whole least (.whole value)).map some :=
        rfl
      rw [Checked.value?_field_of_some given, read]
      have taken := toOption_whole least value
      cases found : whole least (.whole value) with
      | error defect => simp_all [Except.map, Except.toOption]
      | ok value => simp_all [Except.map, Except.toOption]

end ArgHints.Service
