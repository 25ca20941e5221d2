import ArgHints.Proofs.Bracket.Enclosing

namespace ArgHints

namespace Bracket

/-! ## The inside of a literal or a comment -/

namespace Cover

def opener : Cover → Char
  | .literal quote => quote.toChar
  | .comment => '#'

def closer : Cover → Char
  | .literal quote => quote.toChar
  | .comment => '\n'

def escapes : Cover → Bool
  | .literal quote => quote.escapes
  | .comment => false

def wrap (cover : Cover) (body : List Char) : List Char :=
  cover.opener :: (body ++ [cover.closer])

/-- What may stand between the delimiters: no closing one that is not escaped, and no backslash at
the end that would escape the closing one. -/
inductive Body (cover : Cover) : List Char → Prop where
  | nil : Body cover []
  | plain {c : Char} {rest : List Char} :
      c ≠ cover.closer → (c = '\\' → cover.escapes = false) → Body cover rest →
        Body cover (c :: rest)
  | escaped (c : Char) {rest : List Char} :
      cover.escapes = true → Body cover rest → Body cover ('\\' :: c :: rest)

theorem body_comment {body : List Char} (line : '\n' ∉ body) : comment.Body body := by
  induction body with
  | nil => exact .nil
  | cons c body ih =>
      rw [List.mem_cons, not_or] at line
      exact .plain (Ne.symm line.1) (fun _ => rfl) (ih line.2)

theorem next_opener (cover : Cover) : Mode.code.next cover.opener = .ofCover cover := by
  rcases cover with quote | _
  · cases quote <;> rfl
  · rfl

theorem next_closer (cover : Cover) : (Mode.ofCover cover).next cover.closer = .code := by
  rcases cover with quote | _
  · cases quote <;> rfl
  · rfl

theorem next_plain {cover : Cover} {c : Char} (inside : c ≠ cover.closer)
    (plain : c = '\\' → cover.escapes = false) : (Mode.ofCover cover).next c = .ofCover cover := by
  cases cover with
  | literal quote =>
      have noEscape : (c == '\\' && quote.escapes) = false := by
        by_cases backslash : c = '\\'
        · rw [show quote.escapes = false from plain backslash, Bool.and_false]
        · simp [backslash]
      have noClose : (c == quote.toChar) = false := beq_eq_false_iff_ne.mpr inside
      simp [Mode.ofCover, Mode.next, noEscape, noClose]
  | comment =>
      have noClose : (c == '\n') = false := beq_eq_false_iff_ne.mpr inside
      simp [Mode.ofCover, Mode.next, noClose]

theorem next_backslash {cover : Cover} (escapes : cover.escapes = true) :
    ∃ quote, cover = .literal quote ∧ (Mode.ofCover cover).next '\\' = .escaped quote := by
  cases cover with
  | literal quote =>
      have escapes' : quote.escapes = true := escapes
      exact ⟨quote, rfl, by simp [Mode.ofCover, Mode.next, escapes']⟩
  | comment => cases escapes

theorem ofCover_ne_code (cover : Cover) : Mode.ofCover cover ≠ .code := by
  cases cover <;> simp [Mode.ofCover]

namespace Body

variable {cover : Cover} {body : List Char}

theorem foldl_next (inside : cover.Body body) :
    body.foldl Mode.next (.ofCover cover) = .ofCover cover := by
  induction inside with
  | nil => rfl
  | plain other plain _ ih => rw [List.foldl_cons, next_plain other plain, ih]
  | escaped c escapes _ ih =>
      obtain ⟨quote, rfl, escaped⟩ := next_backslash escapes
      rw [List.foldl_cons, escaped, List.foldl_cons]
      exact ih

theorem foldl_next_take_ne_code (inside : cover.Body body) (n : Nat) :
    (body.take n).foldl Mode.next (.ofCover cover) ≠ .code := by
  induction inside generalizing n with
  | nil => simpa using cover.ofCover_ne_code
  | plain other plain _ ih =>
      cases n with
      | zero => exact cover.ofCover_ne_code
      | succ n =>
          rw [List.take_succ_cons, List.foldl_cons, next_plain other plain]
          exact ih n
  | escaped c escapes _ ih =>
      obtain ⟨quote, rfl, escaped⟩ := next_backslash escapes
      match n with
      | 0 => exact ofCover_ne_code _
      | 1 =>
          rw [List.take_succ_cons, List.foldl_cons, escaped]
          simp
      | n + 2 =>
          rw [List.take_succ_cons, List.take_succ_cons, List.foldl_cons, escaped, List.foldl_cons]
          exact ih n

end Body

end Cover

/-! ## Cursors inside -/

/-- A literal or a comment starts at `start` and has not ended at `cursor`. -/
structure HiddenFrom (text : List Char) (start cursor : Nat) : Prop where
  code : Mode.IsCodeAt text start
  lt : start < cursor
  hidden : ∀ offset, start < offset → offset ≤ cursor → ¬ Mode.IsCodeAt text offset

namespace HiddenFrom

variable {text : List Char} {start cursor : Nat}

theorem not_standsAt (inside : HiddenFrom text start cursor) {placed : Placed}
    (low : start ≤ placed.offset) (high : placed.offset ≤ cursor) : ¬ StandsAt text placed := by
  rintro ⟨code, found⟩
  rcases Nat.eq_or_lt_of_le low with same | behind
  · -- A bracket at the start would leave plain code to go on behind it.
    refine inside.hidden (start + 1) (Nat.lt_succ_self start) inside.lt ?_
    have plain : Mode.code.next placed.bracket.toChar = .code := by
      obtain ⟨_, kind | kind⟩ := placed <;> cases kind <;> rfl
    rw [Mode.IsCodeAt, ← same] at code
    rw [← same] at found
    rw [Mode.IsCodeAt, List.take_add_one, found, Mode.after_append, code]
    exact plain
  · exact inside.hidden placed.offset behind high code

theorem codeBrackets_eq_nil (inside : HiddenFrom text start cursor) :
    codeBrackets text start (cursor + 1) = [] := by
  refine List.eq_nil_iff_forall_not_mem.mpr fun placed member => ?_
  obtain ⟨low, high, stands⟩ := mem_codeBrackets.mp member
  exact inside.not_standsAt low (Nat.le_of_lt_succ high) stands

theorem codeBrackets_eq (inside : HiddenFrom text start cursor) {offset : Nat}
    (low : start ≤ offset) (high : offset ≤ cursor + 1) :
    codeBrackets text 0 offset = codeBrackets text 0 start := by
  have none : codeBrackets text start offset = [] := by
    have both := codeBrackets_append text low high
    rw [inside.codeBrackets_eq_nil] at both
    exact (List.append_eq_nil_iff.mp both).1
  rw [← codeBrackets_append text (Nat.zero_le start) low, none, List.append_nil]

theorem ascent_eq (inside : HiddenFrom text start cursor) :
    (Snapshot.ofCursor text cursor).ascent = (Snapshot.ofCursor text start).ascent := by
  have same := inside.codeBrackets_eq (Nat.le_of_lt inside.lt) (Nat.le_succ cursor)
  rw [Snapshot.ascent_ofCursor, Snapshot.ascent_ofCursor, ascend, before_eq, same, ← before_eq,
    ascend]

theorem call?_eq (inside : HiddenFrom text start cursor) :
    (Snapshot.ofCursor text cursor).call? = (Snapshot.ofCursor text start).call? := by
  have same := congrArg Ascent.offset? inside.ascent_eq
  rw [Snapshot.ascent_ofCursor, Snapshot.ascent_ofCursor] at same
  rw [Snapshot.call?_ofCursor, Snapshot.call?_ofCursor, enclosing?, same, enclosing?]

end HiddenFrom

/-! ## Cursors behind -/

/-- A text goes on without another bracket and leads back to plain code and out of names. -/
structure SilentExtension (front text : List Char) : Prop where
  code : Mode.after text = .code
  isPrefix : front <+: text
  brackets : codeBrackets text 0 text.length = codeBrackets front 0 front.length
  stop : ∀ c ∈ text.getLast?, Text.isNameChar c = false

namespace SilentExtension

variable {front first second : List Char}

theorem codeBrackets_append (silent : SilentExtension front first) (rest : List Char) (k : Nat) :
    codeBrackets (first ++ rest) 0 (first.length + k) =
      codeBrackets front 0 front.length ++
        (codeBrackets rest 0 k).map (Placed.relocate (first.length + ·)) := by
  rw [codeBrackets_append_text silent.code, silent.brackets]

theorem nameBefore_append (silent : SilentExtension front first) (rest : List Char) {offset : Nat}
    (le : offset ≤ front.length) :
    Text.nameBefore (first ++ rest) offset = Text.nameBefore front offset := by
  obtain ⟨back, rfl⟩ := silent.isPrefix
  rw [List.append_assoc, Text.nameBefore_append_left _ le]

theorem call?_eq (silent : SilentExtension front first) (silent' : SilentExtension front second)
    (rest : List Char) (k : Nat) :
    (Snapshot.ofCursor (second ++ rest) (second.length + k : Nat)).call? =
      (Snapshot.ofCursor (first ++ rest) (first.length + k : Nat)).call? := by
  -- Offsets inside what is added can go anywhere: no bracket stands there.
  let move (offset : Nat) : Nat :=
    if offset < front.length then offset else offset - first.length + second.length
  have moveFront {placed : Placed} (member : placed ∈ codeBrackets front 0 front.length) :
      move placed.offset = placed.offset := if_pos (mem_codeBrackets.mp member).2.1
  have moveRest (offset : Nat) : move (first.length + offset) = second.length + offset := by
    have le := silent.isPrefix.length_le
    simp only [move]
    rw [if_neg (by omega)]
    omega
  have stays : ∀ placed ∈ codeBrackets front 0 front.length,
      Placed.relocate move placed = id placed := by
    intro placed member
    rw [Placed.relocate, moveFront member, id_eq]
  have moves : ∀ placed ∈ codeBrackets rest 0 k,
      Placed.relocate move (Placed.relocate (first.length + ·) placed) =
        Placed.relocate (second.length + ·) placed := by
    intro placed _
    simp only [Placed.relocate, moveRest]
  refine Snapshot.call?_eq_of_relocate move ?_ ?_
  · rw [silent.codeBrackets_append, silent'.codeBrackets_append, List.map_append, List.map_map,
      List.map_congr_left stays, List.map_id, ← List.map_congr_left moves]
    rfl
  · intro placed member
    rw [silent.codeBrackets_append, List.mem_append] at member
    -- Brackets in front stay where they are, those behind move with the rest of the text.
    rcases member with inFront | behind
    · have le := Nat.le_of_lt (mem_codeBrackets.mp inFront).2.1
      rw [moveFront inFront, silent.nameBefore_append rest le, silent'.nameBefore_append rest le]
    · obtain ⟨original, -, rfl⟩ := List.mem_map.mp behind
      simp only [Placed.relocate]
      rw [moveRest, Text.nameBefore_append rest _ silent.stop,
        Text.nameBefore_append rest _ silent'.stop]

end SilentExtension

namespace Cover

variable {cover : Cover} {front body body' : List Char}

theorem after_wrap (code : Mode.after front = .code) (inside : cover.Body body) :
    Mode.after (front ++ cover.wrap body) = .code := by
  rw [Mode.after_append, code, wrap, List.foldl_cons, next_opener, List.foldl_append,
    inside.foldl_next, List.foldl_cons, next_closer, List.foldl_nil]

theorem Body.hiddenFrom (code : Mode.after front = .code) (inside : cover.Body body) :
    HiddenFrom (front ++ cover.wrap body) front.length (front.length + 1 + body.length) where
  code := by rw [Mode.IsCodeAt, List.take_left, code]
  lt := by omega
  hidden := by
    intro offset low high
    obtain ⟨n, rfl⟩ := Nat.exists_eq_add_of_lt low
    have read : (front ++ cover.wrap body).take (front.length + n + 1) =
        front ++ cover.opener :: body.take n := by
      rw [Nat.add_assoc, List.take_length_add_append, wrap, List.take_succ_cons,
        List.take_append_of_le_length (by omega)]
    rw [Mode.IsCodeAt, read, Mode.after_append, code, List.foldl_cons, next_opener]
    exact inside.foldl_next_take_ne_code n

theorem codeBrackets_wrap (code : Mode.after front = .code) (inside : cover.Body body) :
    codeBrackets (front ++ cover.wrap body) 0 (front ++ cover.wrap body).length =
      codeBrackets front 0 front.length := by
  have length : (front ++ cover.wrap body).length = front.length + 1 + body.length + 1 := by
    simp only [wrap, List.length_append, List.length_cons, List.length_nil]
    omega
  rw [length, (inside.hiddenFrom code).codeBrackets_eq (by omega) (Nat.le_refl _),
    codeBrackets_append_left _ (Nat.le_refl _)]

theorem isNameChar_closer (cover : Cover) : Text.isNameChar cover.closer = false := by
  rcases cover with quote | _
  · cases quote <;> rfl
  · rfl

theorem Body.silent (code : Mode.after front = .code) (inside : cover.Body body) :
    SilentExtension front (front ++ cover.wrap body) where
  code := after_wrap code inside
  isPrefix := List.prefix_append _ _
  brackets := codeBrackets_wrap code inside
  stop := by
    have last : front ++ cover.wrap body = (front ++ cover.opener :: body) ++ [cover.closer] := by
      rw [wrap, List.append_assoc, List.cons_append]
    rw [last, List.getLast?_concat]
    rintro _ ⟨⟩
    exact cover.isNameChar_closer

theorem wrap_append (cover : Cover) (front body rest : List Char) :
    (front ++ cover.wrap body) ++ rest =
      front ++ cover.opener :: (body ++ cover.closer :: rest) := by
  simp only [wrap, List.append_assoc, List.cons_append, List.nil_append]

theorem length_append_wrap (cover : Cover) (front body : List Char) :
    (front ++ cover.wrap body).length = front.length + body.length + 2 := by
  simp only [wrap, List.length_append, List.length_cons, List.length_nil]
  omega

end Cover

end Bracket

namespace Snapshot

open ArgHints.Bracket

theorem call?_wrap (cover : Cover) {front body body' : List Char} (rest : List Char) (k : Nat)
    (code : Mode.after front = .code) (inside : cover.Body body) (inside' : cover.Body body') :
    (ofCursor (front ++ cover.opener :: (body ++ cover.closer :: rest))
        (front.length + body.length + 2 + k : Nat)).call? =
      (ofCursor (front ++ cover.opener :: (body' ++ cover.closer :: rest))
        (front.length + body'.length + 2 + k : Nat)).call? := by
  rw [← cover.wrap_append, ← cover.wrap_append, ← cover.length_append_wrap,
    ← cover.length_append_wrap]
  exact (inside'.silent code).call?_eq (inside.silent code) rest k

/-- Behind a literal or a comment its contents make no difference to the call found, and inside one
every cursor finds what its start finds. -/
theorem call?_ignores_hidden :
    (∀ (quote : Quote) (front rest body body' : List Char) (k : Nat),
      Mode.after front = .code → (Cover.literal quote).Body body →
      (Cover.literal quote).Body body' →
      (ofCursor (front ++ quote.toChar :: (body ++ quote.toChar :: rest))
          (front.length + body.length + 2 + k : Nat)).call? =
        (ofCursor (front ++ quote.toChar :: (body' ++ quote.toChar :: rest))
          (front.length + body'.length + 2 + k : Nat)).call?) ∧
    (∀ (front rest body body' : List Char) (k : Nat),
      Mode.after front = .code → '\n' ∉ body → '\n' ∉ body' →
      (ofCursor (front ++ '#' :: (body ++ '\n' :: rest))
          (front.length + body.length + 2 + k : Nat)).call? =
        (ofCursor (front ++ '#' :: (body' ++ '\n' :: rest))
          (front.length + body'.length + 2 + k : Nat)).call?) ∧
    ∀ (text : List Char) (start cursor : Nat), HiddenFrom text start cursor →
      (ofCursor text cursor).ascent = (ofCursor text start).ascent ∧
        (ofCursor text cursor).call? = (ofCursor text start).call? := by
  refine ⟨?_, ?_, ?_⟩
  · intro quote front rest body body' k code inside inside'
    exact call?_wrap (.literal quote) rest k code inside inside'
  · intro front rest body body' k code line line'
    exact call?_wrap .comment rest k code (Cover.body_comment line) (Cover.body_comment line')
  · intro text start cursor inside
    exact ⟨inside.ascent_eq, inside.call?_eq⟩

theorem call?_ignores_hidden_brackets :
    (ofCursor "f(\"\", g(x".toList (9 : Nat)).call? = some "g" ∧
      (ofCursor ("f(".toList ++ '\x22' :: (['\\', '\x22', '('] ++ '\x22' :: ", g(x".toList))
          (2 + 3 + 2 + 5 : Nat)).call? =
        (ofCursor ("f(".toList ++ '\x22' :: ([] ++ '\x22' :: ", g(x".toList))
          (2 + 0 + 2 + 5 : Nat)).call? ∧
      (ofCursor ("f(".toList ++ '#' :: (['\x22', '('] ++ '\n' :: "g(x".toList))
          (2 + 2 + 2 + 3 : Nat)).call? =
        (ofCursor ("f(".toList ++ '#' :: ([] ++ '\n' :: "g(x".toList))
          (2 + 0 + 2 + 3 : Nat)).call? ∧
      (ofCursor "f(1, 'g(".toList (8 : Nat)).call? =
        (ofCursor "f(1, 'g(".toList (5 : Nat)).call? := by
  obtain ⟨literal, comment, hidden⟩ := call?_ignores_hidden
  refine ⟨?_, ?_, ?_, ?_⟩
  · rw [call?_ofCursor, enclosing?_eq_head?]
    decide
  · have escaped : (Cover.literal .double).Body ['\\', '\x22', '('] :=
      .escaped _ rfl (.plain (by decide) (by decide) .nil)
    exact literal .double _ _ _ _ 5 (by decide) escaped .nil
  · exact comment _ _ _ _ 3 (by decide) (by decide) (by decide)
  · have inside : HiddenFrom "f(1, 'g(".toList 5 8 :=
      { code := by decide
        lt := by decide
        hidden := by
          intro offset low high
          obtain rfl | rfl | rfl : offset = 6 ∨ offset = 7 ∨ offset = 8 := by omega
          all_goals decide }
    exact (hidden _ 5 8 inside).2

end Snapshot

end ArgHints
