import ArgHints.Proofs.Service.Handling
import Mathlib.Data.List.Induction
import Mathlib.Data.List.Perm.Subperm

/-!
# Which buffers are kept

The buffers that are kept stand in the order of their last use (`keys_sublist_dedup_used`). Those
that stand behind one have been used since: while nothing is forgotten they are all that have been
used (`keys_of_mem`), and otherwise what is left of these (`keys_of_few`). A buffer is dropped once
as many stand behind it as may be kept.
-/

namespace ArgHints.Service

inductive Deed where
  /-- A buffer is used, and whoever uses it may change its memo. -/
  | use (id : String) (change : Memo → Memo)
  | forget (id : String)

namespace Deed

def id : Deed → String
  | use id _ => id
  | forget id => id

def order (capacity : Nat) (keys : List String) : Deed → List String
  | use id _ =>
    (keys.filter (· != id) ++ [id]).drop ((keys.filter (· != id) ++ [id]).length - capacity)
  | forget id => keys.filter (· != id)

def used? : Deed → Option String
  | use id _ => some id
  | forget _ => none

end Deed

def used (deeds : List Deed) : List String :=
  deeds.filterMap Deed.used?

def perform (service : Service) : Deed → Service
  | .use id change => service.update (some id) change
  | .forget id => (service.forget id).service

def performAll (service : Service) (deeds : List Deed) : Service :=
  deeds.foldl perform service

/-! ## Lists of keys -/

theorem dedup_concat (keys : List String) (id : String) :
    (keys ++ [id]).dedup = keys.dedup.filter (· != id) ++ [id] := by
  induction keys with
  | nil => rfl
  | cons key keys ih =>
      by_cases again : key ∈ keys
      · rw [List.cons_append, List.dedup_cons_of_mem (List.mem_append_left _ again),
          List.dedup_cons_of_mem again, ih]
      · by_cases same : key = id
        · subst same
          rw [List.cons_append, List.dedup_cons_of_mem (List.mem_append_right _ (.head _)),
            List.dedup_cons_of_notMem again, ih]
          simp
        · have notAgain : key ∉ keys ++ [id] := by simp [again, same]
          rw [List.cons_append, List.dedup_cons_of_notMem notAgain,
            List.dedup_cons_of_notMem again, ih]
          simp [same]

theorem length_dedup_le {first second : List String} (subset : first ⊆ second) :
    first.dedup.length ≤ second.dedup.length := by
  have subset' : first.dedup ⊆ second.dedup := fun id member =>
    List.mem_dedup.mpr (subset (List.mem_dedup.mp member))
  exact ((List.nodup_dedup first).subperm subset').length_le

theorem filter_ne_append_cons (front behind : List String) {id other : String} (ne : other ≠ id) :
    (front ++ id :: behind).filter (· != other) =
      front.filter (· != other) ++ id :: behind.filter (· != other) := by
  have stays : (id != other) = true := bne_iff_ne.mpr (Ne.symm ne)
  rw [List.filter_append, List.filter_cons, if_pos stays]

theorem move_append_cons (front behind : List String) {id other : String} (ne : other ≠ id) :
    (front ++ id :: behind).filter (· != other) ++ [other] =
      front.filter (· != other) ++ id :: (behind.filter (· != other) ++ [other]) := by
  rw [filter_ne_append_cons front behind ne, List.append_assoc, List.cons_append]

theorem drop_of_mem {front behind : List String} {id : String} {count : Nat}
    (kept : id ∈ (front ++ id :: behind).drop count) (absent : id ∉ behind) :
    (front ++ id :: behind).drop count = front.drop count ++ id :: behind := by
  by_cases le : count ≤ front.length
  · exact List.drop_append_of_le_length le
  · obtain ⟨more, rfl⟩ := Nat.exists_eq_add_of_lt (Nat.lt_of_not_le le)
    rw [Nat.add_assoc, List.drop_length_add_append, List.drop_succ_cons] at kept
    exact absurd (List.mem_of_mem_drop kept) absent

/-! ## One deed -/

theorem used_concat_use (deeds : List Deed) (id : String) (change : Memo → Memo) :
    used (deeds ++ [.use id change]) = used deeds ++ [id] := by
  rw [used, List.filterMap_append]
  rfl

theorem used_concat_forget (deeds : List Deed) (id : String) :
    used (deeds ++ [.forget id]) = used deeds := by
  rw [used, List.filterMap_append]
  exact List.append_nil _

theorem length_dedup_used_le (deeds : List Deed) (deed : Deed) :
    (used deeds).dedup.length ≤ (used (deeds ++ [deed])).dedup.length :=
  length_dedup_le (List.filterMap_subset _ (List.subset_append_left _ _))

theorem mem_used {deeds : List Deed} {id : String} :
    id ∈ used deeds ↔ ∃ change, .use id change ∈ deeds := by
  rw [used, List.mem_filterMap]
  constructor
  · rintro ⟨_ | _, member, ⟨⟩⟩
    exact ⟨_, member⟩
  · rintro ⟨change, member⟩
    exact ⟨_, member, rfl⟩

theorem notMem_used {deeds : List Deed} {id : String} (others : ∀ deed ∈ deeds, deed.id ≠ id) :
    id ∉ used deeds := by
  intro member
  obtain ⟨change, member⟩ := mem_used.mp member
  exact others _ member rfl

variable (service : Service)

theorem performAll_append (deeds later : List Deed) :
    service.performAll (deeds ++ later) = (service.performAll deeds).performAll later :=
  List.foldl_append

theorem performAll_concat (deeds : List Deed) (deed : Deed) :
    service.performAll (deeds ++ [deed]) = (service.performAll deeds).perform deed :=
  List.foldl_concat perform service deed deeds

theorem capacity_perform (deed : Deed) : (service.perform deed).capacity = service.capacity := by
  cases deed with
  | use id change => exact capacity_update service change (some id)
  | forget id => rw [perform, service_forget]

theorem capacity_performAll (deeds : List Deed) :
    (service.performAll deeds).capacity = service.capacity := by
  induction deeds generalizing service with
  | nil => rfl
  | cons deed deeds ih => exact (ih (service.perform deed)).trans (capacity_perform service deed)

theorem keys_perform (deed : Deed) :
    (service.perform deed).buffers.keys = deed.order service.capacity service.buffers.keys := by
  cases deed with
  | use id change => rw [perform, keys_update, Recent.keys_use, Deed.order]
  | forget id => rw [perform, service_forget, Recent.keys_erase, Deed.order]

theorem get?_perform_of_ne {id : String} {deed : Deed} (other : deed.id ≠ id)
    (distinct : service.buffers.keys.Nodup) (kept : id ∈ (service.perform deed).buffers.keys) :
    (service.perform deed).buffers.get? id = service.buffers.get? id := by
  cases deed with
  | use used change =>
      refine get?_update_of_ne service used change (Ne.symm other) fun dropped => ?_
      have all := Recent.dropped_append_keys_use service.buffers service.capacity used .empty
      have distinct' : (service.buffers.keys.filter (· != used) ++ [used]).Nodup := by
        refine List.Nodup.append (distinct.filter _) (List.nodup_singleton used) ?_
        simp
      rw [← all] at distinct'
      rw [perform, keys_update] at kept
      exact List.disjoint_of_nodup_append distinct' dropped kept
  | forget forgotten =>
      rw [perform, service_forget]
      exact Recent.get?_erase_of_ne _ _ (Ne.symm other)

/-! ## Requests -/

theorem service_handle_eq_perform (world : Interpreter.World) (request : Request) :
    ∃ deed : Option Deed, (∀ done ∈ deed, request.buffer? = some done.id) ∧
      (service.handle world request).service = service.performAll deed.toList := by
  obtain ⟨sought, snapshot, names, -, after⟩ | ⟨id, names, after⟩ | after :=
    service_handle_cases world service request
  · cases used : sought.bufferId with
    | none =>
        rw [used] at after
        exact ⟨none, by rintro done ⟨⟩, after⟩
    | some id =>
        rw [used] at names after
        exact ⟨some (.use id (sought.memoAfter world snapshot)), by rintro done ⟨⟩; exact names,
          after⟩
  · refine ⟨some (.forget id), by rintro done ⟨⟩; exact names, after.trans ?_⟩
    exact (service.service_forget id).symm
  · exact ⟨none, by rintro done ⟨⟩, after⟩

/-- The buffers that requests lead to are those that some deeds lead to, so what is said of deeds
below is said of requests. -/
theorem Reachable.eq_performAll {capacity : Nat} {service : Service}
    (reachable : Reachable capacity service) :
    ∃ deeds, service = (Service.mk capacity .empty).performAll deeds := by
  induction reachable with
  | start => exact ⟨[], rfl⟩
  | handle world request _ ih =>
      obtain ⟨deeds, rfl⟩ := ih
      obtain ⟨deed, -, after⟩ := service_handle_eq_perform _ world request
      exact ⟨deeds ++ deed.toList, by rw [after, performAll_append]⟩

/-! ## The order of the buffers -/

theorem keys_sublist_dedup_used (capacity : Nat) (deeds : List Deed) :
    ((Service.mk capacity .empty).performAll deeds).buffers.keys.Sublist (used deeds).dedup := by
  induction deeds using List.reverseRecOn with
  | nil => exact List.Sublist.refl _
  | append_singleton deeds deed ih =>
      rw [performAll_concat, keys_perform]
      cases deed with
      | use id change =>
          rw [used_concat_use, dedup_concat]
          exact (List.drop_sublist _ _).trans ((ih.filter _).append (List.Sublist.refl _))
      | forget id =>
          rw [used_concat_forget]
          exact List.filter_sublist.trans ih

theorem nodup_keys (capacity : Nat) (deeds : List Deed) :
    ((Service.mk capacity .empty).performAll deeds).buffers.keys.Nodup :=
  (keys_sublist_dedup_used capacity deeds).nodup (List.nodup_dedup _)

theorem length_keys_le (capacity : Nat) (deeds : List Deed) :
    ((Service.mk capacity .empty).performAll deeds).buffers.keys.length ≤ capacity := by
  induction deeds using List.reverseRecOn with
  | nil => exact Nat.zero_le capacity
  | append_singleton deeds deed ih =>
      rw [performAll_concat, keys_perform, capacity_performAll]
      cases deed with
      | use id change =>
          rw [Deed.order, List.length_drop]
          exact Nat.sub_le_of_le_add (by dsimp only; omega)
      | forget id => exact Nat.le_trans (List.length_filter_le _ _) ih

/-! ## Since the last use -/

section

variable {service} {id : String} {front : List String} {since : List Deed}
  (last : service.buffers.keys = front ++ [id]) (others : ∀ deed ∈ since, deed.id ≠ id)

include last others

theorem keys_of_few (few : (used since).dedup.length < service.capacity) :
    ∃ front behind, (service.performAll since).buffers.keys = front ++ id :: behind ∧
      behind.Sublist (used since).dedup := by
  induction since using List.reverseRecOn with
  | nil => exact ⟨front, [], last, List.nil_sublist _⟩
  | append_singleton since deed ih =>
      have fewer := Nat.lt_of_le_of_lt (length_dedup_used_le since deed) few
      obtain ⟨front, behind, keys, sublist⟩ :=
        ih (fun deed member => others deed (List.mem_append_left _ member)) fewer
      have other : deed.id ≠ id := others deed (List.mem_append_right _ (.head _))
      rw [performAll_concat, keys_perform, keys, capacity_performAll]
      cases deed with
      | use next change =>
          have other : next ≠ id := other
          let behind' := behind.filter (· != next) ++ [next]
          have sublist' : behind'.Sublist (used (since ++ [.use next change])).dedup := by
            rw [used_concat_use, dedup_concat]
            exact (sublist.filter _).append (List.Sublist.refl _)
          have short := Nat.lt_of_le_of_lt sublist'.length_le few
          have moved : (front ++ id :: behind).filter (· != next) ++ [next] =
              front.filter (· != next) ++ id :: behind' := move_append_cons front behind other
          rw [Deed.order, moved]
          -- From `id` on there are no more keys than may be kept: what is dropped stands before it.
          refine ⟨_, behind', List.drop_append_of_le_length ?_, sublist'⟩
          simp only [List.length_append, List.length_cons]
          omega
      | forget gone =>
          have other : gone ≠ id := other
          rw [used_concat_forget, Deed.order, filter_ne_append_cons front behind other]
          exact ⟨_, _, rfl, List.filter_sublist.trans sublist⟩

theorem get?_performAll_of_few (distinct : ∀ deeds, (service.performAll deeds).buffers.keys.Nodup)
    (few : (used since).dedup.length < service.capacity) :
    (service.performAll since).buffers.get? id = service.buffers.get? id := by
  induction since using List.reverseRecOn with
  | nil => rfl
  | append_singleton since deed ih =>
      have fewer := Nat.lt_of_le_of_lt (length_dedup_used_le since deed) few
      obtain ⟨front, behind, keys, -⟩ := keys_of_few last others few
      have kept : id ∈ (service.performAll (since ++ [deed])).buffers.keys := by simp [keys]
      rw [performAll_concat] at kept ⊢
      have other : deed.id ≠ id := others deed (List.mem_append_right _ (.head _))
      rw [get?_perform_of_ne _ other (distinct since) kept]
      exact ih (fun deed member => others deed (List.mem_append_left _ member)) fewer

theorem keys_of_mem (nothing : ∀ other, .forget other ∉ since)
    (kept : id ∈ (service.performAll since).buffers.keys) :
    ∃ front, (service.performAll since).buffers.keys = front ++ id :: (used since).dedup := by
  induction since using List.reverseRecOn with
  | nil => exact ⟨front, last⟩
  | append_singleton since deed ih =>
      have other : deed.id ≠ id := others deed (List.mem_append_right _ (.head _))
      cases deed with
      | forget gone => exact absurd (List.mem_append_right _ (.head _)) (nothing gone)
      | use next change =>
          have other : next ≠ id := other
          rw [performAll_concat, keys_perform, Deed.order] at kept ⊢
          have before : id ∈ (service.performAll since).buffers.keys := by
            rcases List.mem_append.mp (List.mem_of_mem_drop kept) with before | last
            · exact List.mem_of_mem_filter before
            · exact absurd (List.mem_singleton.mp last).symm other
          obtain ⟨front, keys⟩ :=
            ih (fun deed member => others deed (List.mem_append_left _ member))
              (fun other member => nothing other (List.mem_append_left _ member)) before
          have moved : (front ++ id :: (used since).dedup).filter (· != next) ++ [next] =
              front.filter (· != next) ++ id :: (used (since ++ [.use next change])).dedup := by
            rw [used_concat_use, dedup_concat, move_append_cons _ _ other]
          have unused : id ∉ (used (since ++ [.use next change])).dedup := fun member =>
            notMem_used others (List.mem_dedup.mp member)
          rw [keys, moved] at kept ⊢
          exact ⟨_, drop_of_mem kept unused⟩

end

theorem keys_perform_use (id : String) (change : Memo → Memo) (pos : 0 < service.capacity) :
    ∃ front, (service.perform (.use id change)).buffers.keys = front ++ [id] := by
  rw [keys_perform, Deed.order, List.drop_append_of_le_length]
  · exact ⟨_, rfl⟩
  · simp only [List.length_append, List.length_cons, List.length_nil]
    omega

theorem notMem_keys_of_unused {id : String} {later : List Deed}
    (gone : id ∉ service.buffers.keys) (unused : id ∉ used later) :
    id ∉ (service.performAll later).buffers.keys := by
  induction later using List.reverseRecOn with
  | nil => exact gone
  | append_singleton later deed ih =>
      rw [performAll_concat, keys_perform]
      cases deed with
      | use next change =>
          rw [used_concat_use, List.mem_append, not_or] at unused
          intro member
          rcases List.mem_append.mp (List.mem_of_mem_drop member) with before | last
          · exact ih unused.1 (List.mem_of_mem_filter before)
          · exact unused.2 last
      | forget other =>
          rw [used_concat_forget] at unused
          exact fun member => ih unused (List.mem_of_mem_filter member)

theorem notMem_keys_of_many (capacity : Nat) (before : List Deed) {id : String}
    {change : Memo → Memo} {since : List Deed} (unused : id ∉ used since)
    (nothing : ∀ other, .forget other ∉ since) (many : capacity ≤ (used since).dedup.length) :
    id ∉ ((Service.mk capacity .empty).performAll
      (before ++ .use id change :: since)).buffers.keys := by
  intro kept
  have bound := length_keys_le capacity (before ++ .use id change :: since)
  have pos : 0 < capacity := Nat.lt_of_lt_of_le (List.length_pos_of_mem kept) bound
  let start := ((Service.mk capacity .empty).performAll before).perform (.use id change)
  have split : (Service.mk capacity .empty).performAll (before ++ .use id change :: since) =
      start.performAll since := performAll_append _ before _
  have room : 0 < ((Service.mk capacity .empty).performAll before).capacity := by
    rwa [capacity_performAll]
  obtain ⟨front, last⟩ := keys_perform_use _ id change room
  have others : ∀ deed ∈ since, deed.id ≠ id := by
    rintro (⟨other, change⟩ | other) member rfl
    · exact unused (mem_used.mpr ⟨change, member⟩)
    · exact nothing _ member
  rw [split] at kept bound
  obtain ⟨front', keys⟩ := keys_of_mem last others nothing kept
  rw [keys, List.length_append, List.length_cons] at bound
  omega

/-- The buffers that are kept are distinct, at most `capacity`, and in the order of their last use.
A buffer keeps the memo that its last use left until it is forgotten or `capacity` others have been
used since. If they have been and nothing was forgotten meanwhile, it is gone, and its next use
starts from an empty memo. Forgetting succeeds for the buffers that are kept only. -/
theorem kept_by_last_use (capacity : Nat) (deeds : List Deed) :
    let service := (Service.mk capacity .empty).performAll deeds
    (service.buffers.keys.Nodup ∧ service.buffers.keys.length ≤ capacity ∧
      service.buffers.keys.Sublist (used deeds).dedup) ∧
    (∀ before id change since, deeds = before ++ .use id change :: since →
      (∀ deed ∈ since, deed.id ≠ id) → (used since).dedup.length < capacity →
      service.buffers.get? id = some (change
        (((Service.mk capacity .empty).performAll before).useBuffer (some id)).1)) ∧
    (∀ before id change since later, deeds = before ++ .use id change :: (since ++ later) →
      id ∉ used (since ++ later) → (∀ other, .forget other ∉ since) →
      capacity ≤ (used since).dedup.length →
      id ∉ service.buffers.keys ∧ (service.useBuffer (some id)).1 = .empty) ∧
    ∀ id, (service.forget id).answer.map Answer.status =
      .ok (if id ∈ service.buffers.keys then 200 else 404) := by
  intro service
  refine ⟨⟨nodup_keys capacity deeds, length_keys_le capacity deeds,
    keys_sublist_dedup_used capacity deeds⟩, ?_, ?_, ?_⟩
  · rintro before id change since rfl others few
    let start := ((Service.mk capacity .empty).performAll before).perform (.use id change)
    have split : service = start.performAll since := performAll_append _ before _
    have room : capacity = ((Service.mk capacity .empty).performAll before).capacity :=
      (capacity_performAll ⟨capacity, .empty⟩ before).symm
    have pos : 0 < ((Service.mk capacity .empty).performAll before).capacity := by omega
    obtain ⟨front, last⟩ := keys_perform_use _ id change pos
    have distinct : ∀ deeds, (start.performAll deeds).buffers.keys.Nodup := by
      intro deeds
      have all := nodup_keys capacity (before ++ .use id change :: deeds)
      rwa [performAll_append] at all
    rw [split, get?_performAll_of_few last others distinct (by rwa [capacity_perform, ← room])]
    exact get?_update_self _ id change pos
  · rintro before id change since later rfl unused nothing many
    have unused' : id ∉ used since ∧ id ∉ used later := by
      rwa [used, List.filterMap_append, List.mem_append, not_or] at unused
    have gone : id ∉ service.buffers.keys := by
      have split : service = ((Service.mk capacity .empty).performAll
          (before ++ .use id change :: since)).performAll later := by
        rw [← performAll_append, List.append_assoc, List.cons_append]
      rw [split]
      exact notMem_keys_of_unused _ (notMem_keys_of_many capacity before unused'.1 nothing many)
        unused'.2
    refine ⟨gone, ?_⟩
    rw [memo_useBuffer, (Recent.get?_eq_none_iff _ _).mpr gone, Option.getD_none]
  · intro id
    rw [answer_forget]
    split <;> rfl

theorem kept_until_two_others :
    let found (memo : Memo) := memo.store "f" (some "x")
    let stays := (Service.mk 2 .empty).performAll [.use "a" found, .use "b" id, .forget "c"]
    let goes := (Service.mk 2 .empty).performAll
      [.use "a" found, .use "b" id, .use "c" id, .use "b" id, .forget "c"]
    (used [.use "b" id, .forget "c"]).dedup.length < 2 ∧
      stays.buffers.get? "a" = some (found .empty) ∧
      2 ≤ (used [.use "b" id, .use "c" id, .use "b" id]).dedup.length ∧
      "a" ∉ goes.buffers.keys ∧ (goes.useBuffer (some "a")).1 = .empty ∧
      goes.buffers.keys = ["b"] := by
  intro found stays goes
  have few : (used [.use "b" id, .forget "c"]).dedup.length < 2 := by decide
  have many : 2 ≤ (used [.use "b" id, .use "c" id, .use "b" id]).dedup.length := by decide
  have others : ∀ deed ∈ [Deed.use "b" id, .forget "c"], deed.id ≠ "a" := by simp [Deed.id]
  have kept := (kept_by_last_use 2 [.use "a" found, .use "b" id, .forget "c"]).2.1
    [] "a" found [.use "b" id, .forget "c"] rfl others few
  have gone := (kept_by_last_use 2
    [.use "a" found, .use "b" id, .use "c" id, .use "b" id, .forget "c"]).2.2.1 [] "a" found
    [.use "b" id, .use "c" id, .use "b" id] [.forget "c"] rfl (by decide) (by simp) many
  exact ⟨few, kept, many, gone.1, gone.2, by decide⟩

end ArgHints.Service
