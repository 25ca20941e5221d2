import ArgHints.Proofs.Bracket.Enclosing
import ArgHints.Proofs.Hint
import ArgHints.Proofs.Text.Return

namespace ArgHints

namespace Bracket

variable (chosen : Nat → Bool)

theorem Mode.foldl_next_returned (mode : Mode) (chosen : Bool) (c : Char) :
    (Text.returned chosen c).foldl next mode = mode.next c := by
  rcases Text.returned_cases chosen c with same | ⟨rfl, same⟩
  · rw [same, List.foldl_cons, List.foldl_nil]
  · rw [same]
    cases mode with
    | code => rfl
    | comment => rfl
    | literal quote => cases quote <;> rfl
    | escaped quote => cases quote <;> rfl

theorem Mode.after_withReturns (text : List Char) :
    after (Text.withReturns chosen text) = after text := by
  induction text using List.reverseRecOn with
  | nil => rfl
  | append_singleton text c ih =>
      rw [Text.withReturns_concat, after_append, ih, foldl_next_returned, after_append,
        List.foldl_cons, List.foldl_nil]

theorem Mode.collect_returned (mode : Mode) (offset : Nat) (chosen : Bool) (c : Char) :
    mode.collect offset (Text.returned chosen c) =
      ((mode.bracket? c).map (Placed.mk offset)).toList := by
  rcases Text.returned_cases chosen c with same | ⟨rfl, same⟩
  · rw [same, collect, collect, List.append_nil]
  · rw [same]
    cases mode with
    | code => rfl
    | comment => rfl
    | literal quote => cases quote <;> rfl
    | escaped quote => rfl

theorem codeBrackets_withReturns (text : List Char) (cursor : Nat) :
    codeBrackets (Text.withReturns chosen text) 0 (Text.returnedOffset chosen text cursor) =
      (codeBrackets text 0 cursor).map (Placed.relocate (Text.returnedOffset chosen text)) := by
  rw [← collect_take, Text.take_withReturns]
  induction cursor with
  | zero => rfl
  | succ cursor ih =>
      rw [← codeBrackets_append text (Nat.zero_le cursor) (Nat.le_succ cursor), List.map_append,
        ← ih, codeBrackets_self_succ, List.take_add_one]
      cases here : text[cursor]? with
      | none => simp [codeBracket?, here]
      | some c =>
          obtain ⟨bound, -⟩ := List.getElem?_eq_some_iff.mp here
          have length : (text.take cursor).length = cursor := by
            rw [List.length_take, Nat.min_eq_left (Nat.le_of_lt bound)]
          rw [Option.toList_some, Text.withReturns_concat, Mode.collect_append, length,
            ← Mode.after, Mode.after_withReturns, Nat.zero_add, Mode.collect_returned,
            codeBracket?, here, Option.bind_some]
          cases (Mode.after (text.take cursor)).bracket? c <;> rfl

end Bracket

namespace Snapshot

variable (chosen : Nat → Bool)

theorem call?_withReturns (text : List Char) (cursor : Nat) :
    (ofCursor (Text.withReturns chosen text) (Text.returnedOffset chosen text cursor)).call? =
      (ofCursor text cursor).call? :=
  call?_eq_of_relocate _ (Bracket.codeBrackets_withReturns chosen text cursor) fun _ _ =>
    Text.nameBefore_withReturns chosen text _

theorem token_withReturns (text : List Char) (cursor : Nat) :
    (ofCursor (Text.withReturns chosen text) (Text.returnedOffset chosen text cursor)).token =
      (ofCursor text cursor).token := by
  rw [token_ofCursor, token_ofCursor, Text.nameAt_withReturns]

end Snapshot

namespace Hint

/-- At a place given by line and column it makes no difference which newlines have a carriage return
in front of them: the name, the call and all that a search asks and answers are the same. -/
theorem resolve_withReturns (chosen : Nat → Bool) {text : List Char} (unix : '\r' ∉ text)
    {line column : Int} (lineLe : 1 ≤ line) (columnLe : 0 ≤ column) :
    ∃ offset offset' : Nat, Text.offsetAt text line column = .ok offset ∧
      Text.offsetAt (Text.withReturns chosen text) line column = .ok offset' ∧
      let snapshot := Snapshot.ofCursor text offset
      let snapshot' := Snapshot.ofCursor (Text.withReturns chosen text) offset'
      Text.nameAt (Text.withReturns chosen text) offset' = Text.nameAt text offset ∧
      snapshot'.call? = snapshot.call? ∧
      ∀ (ε σ : Type) (responder : Responder ε σ) (state : σ) (emptyIsMissing active : Bool),
        ((resolve emptyIsMissing active snapshot').run responder state).SameExchange
          ((resolve emptyIsMissing active snapshot).run responder state) := by
  obtain ⟨offset, here, there⟩ := Text.offsetAt_withReturns chosen unix lineLe columnLe
  refine ⟨offset, _, here, there, Text.nameAt_withReturns chosen text offset,
    Snapshot.call?_withReturns chosen text offset, ?_⟩
  intro ε σ responder state emptyIsMissing active
  exact resolve_sameExchange (Snapshot.token_withReturns chosen text offset)
    (Snapshot.call?_withReturns chosen text offset) emptyIsMissing active responder state

theorem resolve_behind_escaped_newline :
    let text := "f(x, '\\\n(',\ny".toList
    let returned := Text.withReturns (fun _ => true) text
    '\r' ∉ text ∧ (1 : Int) ≤ 3 ∧ (0 : Int) ≤ 1 ∧
      returned = "f(x, '\\\r\n(',\r\ny".toList ∧
      Text.offsetAt text 3 1 = .ok 13 ∧ Text.offsetAt returned 3 1 = .ok 15 ∧
      Text.nameAt returned (15 : Nat) = ['y'] ∧
      (Snapshot.ofCursor returned (15 : Nat)).call? = some "f" := by
  intro text returned
  have unix : '\r' ∉ text := by decide
  have offset : Text.offsetAt text 3 1 = .ok 13 := by decide
  have offset' : Text.offsetAt returned 3 1 = .ok 15 := by decide
  obtain ⟨_, _, here, there, name, call, -⟩ :=
    resolve_withReturns (fun _ => true) unix (show (1 : Int) ≤ 3 by decide)
      (show (0 : Int) ≤ 1 by decide)
  obtain rfl := Except.ok.inj (offset.symm.trans here)
  obtain rfl := Except.ok.inj (offset'.symm.trans there)
  have found : (Snapshot.ofCursor text (13 : Nat)).call? = some "f" := by
    rw [Snapshot.call?_ofCursor, Bracket.enclosing?_eq_head?]
    decide
  exact ⟨unix, by decide, by decide, by decide, offset, offset', name.trans (by decide),
    call.trans found⟩

end Hint

end ArgHints
