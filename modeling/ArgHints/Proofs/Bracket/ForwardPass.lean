import ArgHints.Bracket
import ArgHints.Bracket.Search
import ArgHints.Proofs.Bracket.CodeBrackets
import Mathlib.Data.List.Induction

/-!
# Climbing against a forward pass

The search walks back from a cursor, a forward pass reads towards it. What ties them together:

* `explains_openStack`: each mark on the stack of a forward pass is followed by a well nested word,
  up to the next mark or the end.
* `offset?_climb_reverse`: the search with its pending closing brackets sees the stack that a
  forward pass has after these brackets, and an opening bracket on top of it is what it finds.
* `ascents_eq`: so the search repeated from each bracket it finds reads the stack off.
-/

namespace ArgHints.Bracket

/-! ## Well nested words on the stack -/

theorem WellNested.append {word rest : List Bracket} (first : WellNested word)
    (second : WellNested rest) : WellNested (word ++ rest) := by
  induction first with
  | nil => exact second
  | cons kind inner _ ihInner ihRest =>
      rw [List.append_assoc, List.cons_append]
      exact .cons kind inner ihRest

theorem WellNested.append_map {outer inner : List Placed}
    (first : WellNested (outer.map (·.bracket))) (second : WellNested (inner.map (·.bracket))) :
    WellNested ((outer ++ inner).map (·.bracket)) := by
  rw [List.map_append]
  exact first.append second

def Mark.close (stack : List Mark) (kind : Kind) : List Mark :=
  Mark.push stack ⟨0, .closing kind⟩

@[simp] theorem Mark.push_opening (stack : List Mark) (offset : Nat) (kind : Kind) :
    push stack ⟨offset, .opening kind⟩ = .opener offset kind :: stack := rfl

@[simp] theorem Mark.push_closing (stack : List Mark) (offset : Nat) (kind : Kind) :
    push stack ⟨offset, .closing kind⟩ = close stack kind := rfl

@[simp] theorem Mark.close_opener (offset : Nat) (top kind : Kind) (stack : List Mark) :
    close (.opener offset top :: stack) kind =
      if top = kind then stack else .barrier :: .opener offset top :: stack := rfl

theorem Mark.close_of_unmet {stack : List Mark} {kind : Kind}
    (unmet : ∀ offset below, stack ≠ .opener offset kind :: below) :
    close stack kind = .barrier :: stack := by
  match stack with
  | [] => rfl
  | .barrier :: _ => rfl
  | .opener offset top :: below =>
      have other : top ≠ kind := fun same => unmet offset below (by rw [same])
      rw [close_opener, if_neg other]

@[simp] theorem openStack_nil : openStack [] = [] := rfl

theorem openStack_append (brackets later : List Placed) :
    openStack (brackets ++ later) = later.foldl Mark.push (openStack brackets) := by
  rw [openStack, List.foldl_append, ← openStack]

@[simp] theorem openStack_concat (brackets : List Placed) (placed : Placed) :
    openStack (brackets ++ [placed]) = Mark.push (openStack brackets) placed := by
  rw [openStack_append, List.foldl_cons, List.foldl_nil]

theorem WellNested.foldl_push {word : List Bracket} (nested : WellNested word)
    (brackets : List Placed) (same : brackets.map (·.bracket) = word) (stack : List Mark) :
    brackets.foldl Mark.push stack = stack := by
  induction nested generalizing brackets stack with
  | nil => rw [List.map_eq_nil_iff.mp same, List.foldl_nil]
  | cons kind inner rest ihInner ihRest =>
      obtain ⟨opened, closed, rfl, sameOpened, sameClosed⟩ := List.map_eq_append_iff.mp same
      obtain ⟨⟨offset, _⟩, inside, rfl, rfl, sameInner⟩ := List.map_eq_cons_iff.mp sameOpened
      obtain ⟨⟨_, _⟩, after, rfl, rfl, sameRest⟩ := List.map_eq_cons_iff.mp sameClosed
      simp only [List.cons_append, List.foldl_cons, List.foldl_append, Mark.push_opening,
        Mark.push_closing, ihInner inside sameInner, Mark.close_opener, if_true,
        ihRest after sameRest]

/-! ## Where the marks come from -/

/-- How the marks on a stack account for the brackets read: each was left by a bracket that a well
nested word follows, and a barrier by one that did not meet the mark below. -/
inductive Explains : List Mark → List Placed → Prop where
  | nil {inner : List Placed} : WellNested (inner.map (·.bracket)) → Explains [] inner
  | opener (offset : Nat) (kind : Kind) {below : List Mark} {outer inner : List Placed} :
      Explains below outer → WellNested (inner.map (·.bracket)) →
        Explains (.opener offset kind :: below) (outer ++ ⟨offset, .opening kind⟩ :: inner)
  | barrier (offset : Nat) (kind : Kind) {below : List Mark} {outer inner : List Placed} :
      Explains below outer → (∀ offset rest, below ≠ .opener offset kind :: rest) →
        WellNested (inner.map (·.bracket)) →
        Explains (.barrier :: below) (outer ++ ⟨offset, .closing kind⟩ :: inner)

theorem Explains.append {stack : List Mark} {outer inner : List Placed}
    (explains : Explains stack outer) (nested : WellNested (inner.map (·.bracket))) :
    Explains stack (outer ++ inner) := by
  cases explains with
  | nil first => exact .nil (first.append_map nested)
  | opener offset kind lower first =>
      rw [List.append_assoc, List.cons_append]
      exact .opener offset kind lower (first.append_map nested)
  | barrier offset kind lower unmet first =>
      rw [List.append_assoc, List.cons_append]
      exact .barrier offset kind lower unmet (first.append_map nested)

theorem Explains.push {stack : List Mark} {brackets : List Placed}
    (explains : Explains stack brackets) (placed : Placed) :
    Explains (Mark.push stack placed) (brackets ++ [placed]) := by
  obtain ⟨offset, kind | kind⟩ := placed
  · exact .opener offset kind explains .nil
  · rw [Mark.push_closing]
    by_cases met : ∃ opened below, stack = .opener opened kind :: below
    · obtain ⟨opened, below, rfl⟩ := met
      rw [Mark.close_opener, if_pos rfl]
      cases explains with
      | opener _ _ lower nested =>
          rw [List.append_assoc]
          refine lower.append ?_
          simpa using WellNested.cons kind nested .nil
    · have unmet : ∀ opened below, stack ≠ .opener opened kind :: below :=
        fun opened below same => met ⟨opened, below, same⟩
      rw [Mark.close_of_unmet unmet]
      exact .barrier offset kind explains unmet .nil

theorem explains_openStack (brackets : List Placed) : Explains (openStack brackets) brackets := by
  induction brackets using List.reverseRecOn with
  | nil => exact .nil .nil
  | append_singleton brackets placed ih =>
      rw [openStack_concat]
      exact ih.push placed

theorem Explains.openStack_eq {stack : List Mark} {brackets : List Placed}
    (explains : Explains stack brackets) : openStack brackets = stack := by
  induction explains with
  | nil nested => exact nested.foldl_push _ rfl []
  | opener offset kind lower nested ih =>
      rw [openStack_append, ih, List.foldl_cons, nested.foldl_push _ rfl, Mark.push_opening]
  | barrier offset kind lower unmet nested ih =>
      rw [openStack_append, ih, List.foldl_cons, nested.foldl_push _ rfl, Mark.push_closing,
        Mark.close_of_unmet unmet]

theorem wellNested_iff {brackets : List Placed} :
    WellNested (brackets.map (·.bracket)) ↔ openStack brackets = [] := by
  constructor
  · exact fun nested => (Explains.nil nested).openStack_eq
  · intro empty
    have explains := explains_openStack brackets
    rw [empty] at explains
    cases explains with
    | nil nested => exact nested

theorem openStack_eq_opener_cons_iff {brackets : List Placed} {offset : Nat} {kind : Kind}
    {below : List Mark} :
    openStack brackets = .opener offset kind :: below ↔
      ∃ outer inner, brackets = outer ++ ⟨offset, .opening kind⟩ :: inner ∧
        openStack outer = below ∧ WellNested (inner.map (·.bracket)) := by
  constructor
  · intro top
    have explains := explains_openStack brackets
    rw [top] at explains
    cases explains with
    | opener _ _ lower nested => exact ⟨_, _, rfl, lower.openStack_eq, nested⟩
  · rintro ⟨outer, inner, rfl, rfl, nested⟩
    exact (Explains.opener offset kind (explains_openStack outer) nested).openStack_eq

/-! ## The search -/

theorem reachable_foldl_close {stack : List Mark} (blocked : reachable stack = [])
    (pending : List Kind) : reachable (pending.foldl Mark.close stack) = [] := by
  induction pending generalizing stack with
  | nil => exact blocked
  | cons kind pending ih =>
      have unmet : ∀ offset below, stack ≠ .opener offset kind :: below := by
        rintro offset below rfl
        cases blocked
      rw [List.foldl_cons, Mark.close_of_unmet unmet]
      exact ih rfl

theorem offset?_climb_reverse (brackets : List Placed) (pending : List Kind) :
    (climb pending brackets.reverse).offset? =
      (reachable (pending.foldl Mark.close (openStack brackets))).head? := by
  -- From the last bracket on, which the search meets first and the forward pass last.
  induction brackets using List.reverseRecOn generalizing pending with
  | nil => rw [openStack_nil, reachable_foldl_close rfl]; rfl
  | append_singleton brackets placed ih =>
      obtain ⟨offset, kind | kind⟩ := placed
      · rw [List.reverse_concat, openStack_concat, Mark.push_opening]
        cases pending with
        | nil => rfl
        | cons awaited pending =>
            rw [List.foldl_cons, Mark.close_opener, climb]
            split
            · exact ih pending
            · rw [reachable_foldl_close rfl]; rfl
      · rw [List.reverse_concat, openStack_concat, Mark.push_closing]
        exact ih (kind :: pending)

theorem enclosing?_eq_head? (text : List Char) (cursor : Nat) :
    enclosing? text cursor = (reachable (openStack (codeBrackets text 0 cursor))).head? := by
  rw [enclosing?, ascend, before_eq]
  exact offset?_climb_reverse _ []

theorem enclosing?_eq_some_iff_top {text : List Char} {cursor opener : Nat} :
    enclosing? text cursor = some opener ↔
      ∃ kind below, openStack (codeBrackets text 0 cursor) = .opener opener kind :: below := by
  rw [enclosing?_eq_head?]
  rcases openStack (codeBrackets text 0 cursor) with _ | ⟨⟨offset, kind⟩ | _, below⟩
  all_goals simp [reachable]

theorem openStack_of_enclosing? {text : List Char} {cursor opener : Nat}
    (found : enclosing? text cursor = some opener) :
    ∃ kind, StandsAt text ⟨opener, .opening kind⟩ ∧ opener < cursor ∧
      openStack (codeBrackets text 0 cursor) =
        .opener opener kind :: openStack (codeBrackets text 0 opener) ∧
      WellNested ((codeBrackets text (opener + 1) cursor).map (·.bracket)) := by
  obtain ⟨kind, below, top⟩ := enclosing?_eq_some_iff_top.mp found
  obtain ⟨outer, inner, split, rfl, nested⟩ := openStack_eq_opener_cons_iff.mp top
  obtain ⟨⟨high, stands⟩, rfl, rfl⟩ := codeBrackets_eq_append_cons split
  exact ⟨kind, stands, high, top, nested⟩

theorem enclosing?_lt {text : List Char} {cursor opener : Nat}
    (found : enclosing? text cursor = some opener) : opener < cursor := by
  obtain ⟨kind, -, high, -⟩ := openStack_of_enclosing? found
  exact high

/-! ## Repeated search -/

def ascents (text : List Char) (cursor : Nat) : List Nat :=
  match _found : enclosing? text cursor with
  | none => []
  | some opener => opener :: ascents text opener
termination_by cursor
decreasing_by exact enclosing?_lt _found

theorem ascents_of_none {text : List Char} {cursor : Nat}
    (found : enclosing? text cursor = none) : ascents text cursor = [] := by
  rw [ascents]
  split <;> simp_all

theorem ascents_of_some {text : List Char} {cursor opener : Nat}
    (found : enclosing? text cursor = some opener) :
    ascents text cursor = opener :: ascents text opener := by
  rw [ascents]
  split <;> simp_all

theorem ascents_eq (text : List Char) (cursor : Nat) :
    ascents text cursor = reachable (openStack (codeBrackets text 0 cursor)) := by
  induction cursor using Nat.strongRecOn with
  | _ cursor ih =>
    cases found : enclosing? text cursor with
    | none =>
        rw [ascents_of_none found]
        rw [enclosing?_eq_head?, List.head?_eq_none_iff] at found
        exact found.symm
    | some opener =>
        obtain ⟨kind, -, high, stack, -⟩ := openStack_of_enclosing? found
        rw [ascents_of_some found, ih opener high, stack, reachable]

/-! ## Brackets without a stray or mismatched closing one -/

def Mark.offset? : Mark → Option Nat
  | .opener offset _ => some offset
  | .barrier => none

theorem reachable_eq_filterMap {stack : List Mark} (clear : .barrier ∉ stack) :
    reachable stack = stack.filterMap Mark.offset? := by
  induction stack with
  | nil => rfl
  | cons mark below ih =>
      rw [List.mem_cons, not_or] at clear
      cases mark with
      | barrier => exact absurd rfl clear.1
      | opener offset kind =>
          rw [reachable, ih clear.2]
          rfl

theorem Mark.barrier_mem_push {stack : List Mark} (placed : Placed)
    (blocked : .barrier ∈ stack) : .barrier ∈ push stack placed := by
  obtain ⟨offset, kind | kind⟩ := placed
  · exact List.mem_cons_of_mem _ blocked
  · rw [push_closing]
    by_cases met : ∃ opened below, stack = .opener opened kind :: below
    · obtain ⟨opened, below, rfl⟩ := met
      rw [close_opener, if_pos rfl]
      simpa using blocked
    · rw [close_of_unmet fun opened below same => met ⟨opened, below, same⟩]
      exact List.mem_cons_self

theorem Mark.barrier_mem_foldl_push {stack : List Mark} (brackets : List Placed)
    (blocked : .barrier ∈ stack) : .barrier ∈ brackets.foldl push stack := by
  induction brackets generalizing stack with
  | nil => exact blocked
  | cons placed brackets ih => exact ih (barrier_mem_push placed blocked)

theorem barrier_notMem_openStack {brackets : List Placed} {rest : List Bracket}
    (nested : WellNested (brackets.map (·.bracket) ++ rest)) : .barrier ∉ openStack brackets := by
  intro blocked
  -- Offsets do not matter to the stack's barriers, so the rest of the word may stand anywhere.
  let later := rest.map (Placed.mk 0)
  have whole : (brackets ++ later).map (·.bracket) = brackets.map (·.bracket) ++ rest := by
    simp [later, Function.comp_def]
  rw [← whole, wellNested_iff, openStack_append] at nested
  have kept := Mark.barrier_mem_foldl_push later blocked
  rw [nested] at kept
  cases kept

/-- The search repeated from each bracket it finds reads the stack of a forward pass down to the
first barrier. It reads all of it if the brackets before the cursor begin a well nested word. -/
theorem ascents_eq_reachable (text : List Char) (cursor : Nat) :
    ascents text cursor = reachable (openStack (before text cursor).reverse) ∧
      ((∃ rest, WellNested ((before text cursor).reverse.map (·.bracket) ++ rest)) →
        ascents text cursor = (openStack (before text cursor).reverse).filterMap Mark.offset?) := by
  rw [before_eq, List.reverse_reverse]
  refine ⟨ascents_eq text cursor, ?_⟩
  rintro ⟨rest, nested⟩
  rw [ascents_eq, reachable_eq_filterMap (barrier_notMem_openStack nested)]

theorem ascents_of_open_calls :
    (∃ rest, WellNested ((before "f(x(1), '(', g[".toList 15).reverse.map (·.bracket) ++ rest)) ∧
      ascents "f(x(1), '(', g[".toList 15 =
        (openStack (before "f(x(1), '(', g[".toList 15).reverse).filterMap Mark.offset? ∧
      ascents "f(x(1), '(', g[".toList 15 = [14, 1] := by
  have word : (before "f(x(1), '(', g[".toList 15).reverse.map (·.bracket) =
      [.opening .round, .opening .round, .closing .round, .opening .square] := by
    rw [before_eq]
    decide
  have nested : ∃ rest, WellNested
      ((before "f(x(1), '(', g[".toList 15).reverse.map (·.bracket) ++ rest) := by
    refine ⟨[.closing .square, .closing .round], ?_⟩
    rw [word]
    exact .cons .round (.cons .round .nil (.cons .square .nil .nil)) .nil
  refine ⟨nested, (ascents_eq_reachable _ 15).2 nested, ?_⟩
  rw [ascents_eq]
  decide

end ArgHints.Bracket
