import ArgHints.Service.Recent
import Mathlib.Data.List.Dedup

namespace ArgHints.Service.Recent

variable {α : Type} (recent : Recent α) (capacity : Nat) (key : String) (fresh value : α)

theorem get?_eq_none_iff : recent.get? key = none ↔ key ∉ recent.keys := by
  simp only [get?, keys, Option.map_eq_none_iff, List.find?_eq_none, List.mem_map, beq_iff_eq]
  constructor
  · rintro absent ⟨entry, member, rfl⟩
    exact absent entry member rfl
  · rintro absent entry member rfl
    exact absent ⟨entry, member, rfl⟩

theorem isSome_get?_iff : (recent.get? key).isSome ↔ key ∈ recent.keys := by
  rw [Option.isSome_iff_ne_none, ne_eq, get?_eq_none_iff, not_not]

theorem get?_append (front back : List (String × α)) :
    (Recent.mk (front ++ back)).get? key =
      ((Recent.mk front).get? key).or ((Recent.mk back).get? key) := by
  simp only [get?, List.find?_append]
  cases front.find? _ <;> rfl

theorem get?_append_of_notMem {front : List (String × α)} (back : List (String × α))
    (absent : key ∉ front.map (·.1)) :
    (Recent.mk (front ++ back)).get? key = (Recent.mk back).get? key := by
  rw [get?_append, (get?_eq_none_iff ⟨front⟩ key).mpr absent, Option.none_or]

theorem keys_erase : (recent.erase key).keys = recent.keys.filter (· != key) := by
  rw [keys, keys, List.filter_map]
  rfl

theorem get?_erase_self : (recent.erase key).get? key = none := by
  rw [get?_eq_none_iff, keys_erase]
  simp

theorem get?_erase_of_ne {other : String} (ne : other ≠ key) :
    (recent.erase key).get? other = recent.get? other := by
  simp only [get?, erase, List.find?_filter]
  congr 2
  funext entry
  by_cases same : entry.1 = other
  · simp [same, ne]
  · simp [same]

theorem keys_replace : (recent.replace key value).keys = recent.keys := by
  simp only [keys, replace, List.map_map]
  apply List.map_congr_left
  intro entry _
  by_cases same : entry.1 = key
  · simp [same]
  · simp [same]

theorem get?_replace_self :
    (recent.replace key value).get? key = (recent.get? key).map fun _ => value := by
  obtain ⟨entries⟩ := recent
  induction entries with
  | nil => rfl
  | cons entry entries ih =>
      by_cases same : entry.1 = key
      · simp [get?, replace, same]
      · simpa [get?, replace, same] using ih

theorem get?_replace_of_ne {other : String} (ne : other ≠ key) :
    (recent.replace key value).get? other = recent.get? other := by
  obtain ⟨entries⟩ := recent
  induction entries with
  | nil => rfl
  | cons entry entries ih =>
      by_cases same : entry.1 = key
      · simpa [get?, replace, same, Ne.symm ne] using ih
      · by_cases found : entry.1 = other
        · simp [get?, replace, found, ne]
        · simpa [get?, replace, same, found] using ih

def moved : List (String × α) :=
  (recent.erase key).entries ++ [(key, (recent.get? key).getD fresh)]

theorem use_eq : recent.use capacity key fresh =
    ((recent.get? key).getD fresh,
      ((recent.moved key fresh).map (·.1)).take ((recent.moved key fresh).length - capacity),
      ⟨(recent.moved key fresh).drop ((recent.moved key fresh).length - capacity)⟩) := rfl

theorem keys_moved :
    (recent.moved key fresh).map (·.1) = recent.keys.filter (· != key) ++ [key] := by
  rw [moved, List.map_append, ← keys_erase]
  rfl

theorem get?_moved_of_ne {other : String} (ne : other ≠ key) :
    (Recent.mk (recent.moved key fresh)).get? other = recent.get? other := by
  rw [moved, get?_append, get?_erase_of_ne recent key ne]
  simp [get?, Ne.symm ne]

theorem keys_use : (recent.use capacity key fresh).2.2.keys =
    (recent.keys.filter (· != key) ++ [key]).drop
      ((recent.keys.filter (· != key) ++ [key]).length - capacity) := by
  rw [use_eq, keys, List.map_drop, ← List.length_map (f := (·.1)), keys_moved]

theorem get?_use_self (pos : 0 < capacity) :
    (recent.use capacity key fresh).2.2.get? key = some (recent.use capacity key fresh).1 := by
  have bound : (recent.moved key fresh).length - capacity ≤ (recent.erase key).entries.length := by
    simp only [moved, List.length_append, List.length_cons, List.length_nil]
    omega
  have absent : key ∉ ((recent.erase key).entries.drop
      ((recent.moved key fresh).length - capacity)).map (·.1) := by
    rw [List.map_drop]
    intro member
    exact (get?_eq_none_iff _ key).mp (recent.get?_erase_self key) (List.mem_of_mem_drop member)
  rw [use_eq]
  simp only [moved] at bound absent ⊢
  rw [List.drop_append_of_le_length bound, get?_append_of_notMem _ _ absent]
  simp [get?]

theorem get?_use_of_notMem {other : String} (ne : other ≠ key)
    (stays : other ∉ (recent.use capacity key fresh).2.1) :
    (recent.use capacity key fresh).2.2.get? other = recent.get? other := by
  rw [use_eq] at stays ⊢
  rw [← List.map_take] at stays
  rw [← get?_append_of_notMem other _ stays, List.take_append_drop,
    get?_moved_of_ne recent key fresh ne]

theorem dropped_append_keys_use :
    (recent.use capacity key fresh).2.1 ++ (recent.use capacity key fresh).2.2.keys =
      recent.keys.filter (· != key) ++ [key] := by
  rw [use_eq, keys, List.map_drop, List.take_append_drop, keys_moved]

theorem replace_use_self :
    (recent.use capacity key fresh).2.2.replace key (recent.use capacity key fresh).1 =
      (recent.use capacity key fresh).2.2 := by
  have stays : ∀ entry ∈ recent.moved key fresh,
      (if entry.1 = key then (key, (recent.get? key).getD fresh) else entry) = id entry := by
    intro entry member
    rcases List.mem_append.mp member with other | last
    · have ne : entry.1 ≠ key := bne_iff_ne.mp (List.mem_filter.mp other).2
      rw [if_neg ne, id_eq]
    · obtain rfl := List.mem_singleton.mp last
      rw [if_pos rfl, id_eq]
  rw [use_eq, replace,
    List.map_congr_left fun entry member => stays entry (List.mem_of_mem_drop member), List.map_id]

def Every (P : α → Prop) : Prop :=
  ∀ entry ∈ recent.entries, P entry.2

variable {recent} {P : α → Prop}

theorem every_empty : (empty : Recent α).Every P := by
  intro entry member
  cases member

theorem Every.of_get? (all : recent.Every P) {key : String} {value : α}
    (found : recent.get? key = some value) : P value := by
  obtain ⟨entry, member, rfl⟩ := Option.map_eq_some_iff.mp found
  exact all entry (List.mem_of_find?_eq_some member)

theorem Every.erase (all : recent.Every P) (key : String) : (recent.erase key).Every P :=
  fun entry member => all entry (List.mem_of_mem_filter member)

theorem Every.replace (all : recent.Every P) (key : String) {value : α} (holds : P value) :
    (recent.replace key value).Every P := by
  intro entry member
  obtain ⟨old, oldMember, rfl⟩ := List.mem_map.mp member
  split
  · exact holds
  · exact all old oldMember

theorem Every.value_use (all : recent.Every P) (capacity : Nat) (key : String) {fresh : α}
    (holds : P fresh) : P (recent.use capacity key fresh).1 := by
  rw [use_eq]
  cases found : recent.get? key with
  | none => exact holds
  | some value => exact all.of_get? found

theorem Every.use (all : recent.Every P) (capacity : Nat) (key : String) {fresh : α}
    (holds : P fresh) : (recent.use capacity key fresh).2.2.Every P := by
  intro entry member
  have inMoved : entry ∈ recent.moved key fresh := List.mem_of_mem_drop member
  rcases List.mem_append.mp inMoved with kept | last
  · exact all.erase key entry kept
  · obtain rfl := List.mem_singleton.mp last
    exact all.value_use capacity key holds

end ArgHints.Service.Recent
