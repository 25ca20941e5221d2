import ArgHints.Bracket

namespace ArgHints.Bracket

inductive Quote where
  | double
  | single
  | back
  deriving DecidableEq, Repr

def Quote.toChar : Quote → Char
  | .double => '\x22'
  | .single => '\x27'
  | .back => '\x60'

def Quote.escapes : Quote → Bool
  | .back => false
  | _ => true

inductive Cover where
  | literal (quote : Quote)
  | comment
  deriving DecidableEq, Repr

def Cover.ofChar? : Char → Option Cover
  | '\x22' => some (.literal .double)
  | '\x27' => some (.literal .single)
  | '\x60' => some (.literal .back)
  | '#' => some .comment
  | _ => none

/-- Passes over the inside of a literal and its closing delimiter. The text starts at `offset`; the
answer is where plain code goes on and what is left of the text. -/
def Quote.skip (quote : Quote) (offset : Nat) : List Char → Nat × List Char
  | [] => (offset, [])
  -- The last character ends the literal, whether it closes it or not.
  | [_] => (offset + 1, [])
  | c :: d :: rest =>
    if c == '\\' && quote.escapes then quote.skip (offset + 2) rest
    else if c == quote.toChar then (offset + 1, d :: rest)
    else quote.skip (offset + 1) (d :: rest)

def skipComment (offset : Nat) : List Char → Nat × List Char
  | [] => (offset, [])
  | c :: rest => if c == '\n' then (offset + 1, rest) else skipComment (offset + 1) rest

def Cover.skip : Cover → Nat → List Char → Nat × List Char
  | .literal quote => quote.skip
  | .comment => skipComment

theorem Quote.length_skip_le (quote : Quote) (offset : Nat) (text : List Char) :
    (quote.skip offset text).2.length ≤ text.length := by
  fun_induction Quote.skip quote offset text with
  | case1 => simp
  | case2 => simp
  | case3 offset c d rest _ ih => simp only [List.length_cons]; omega
  | case4 offset c d rest => simp
  | case5 offset c d rest _ _ ih => simp only [List.length_cons] at ih ⊢; omega

theorem length_skipComment_le (offset : Nat) (text : List Char) :
    (skipComment offset text).2.length ≤ text.length := by
  fun_induction skipComment offset text with
  | case1 => simp
  | case2 => simp
  | case3 offset c rest _ ih => simp only [List.length_cons]; omega

theorem Cover.length_skip_le (cover : Cover) (offset : Nat) (text : List Char) :
    (cover.skip offset text).2.length ≤ text.length := by
  cases cover with
  | literal quote => exact quote.length_skip_le offset text
  | comment => exact length_skipComment_le offset text

/-- Puts the brackets of plain code in a text in front of those already found, the last one first.
The text starts at `offset`. -/
def scan (offset : Nat) (found : List Placed) (text : List Char) : List Placed :=
  match text with
  | [] => found
  | c :: rest =>
    match Cover.ofChar? c with
    | some cover =>
      let after := cover.skip (offset + 1) rest
      scan after.1 found after.2
    | none =>
      match ofChar? c with
      | some bracket => scan (offset + 1) (⟨offset, bracket⟩ :: found) rest
      | none => scan (offset + 1) found rest
  termination_by text.length
  decreasing_by
    · have := cover.length_skip_le (offset + 1) rest
      simp only [List.length_cons]
      omega
    · simp
    · simp

def before (text : List Char) (cursor : Nat) : List Placed :=
  scan 0 [] (text.take cursor)

def offsetsBefore (text : List Char) (cursor : Nat) : List Nat :=
  ((before text cursor).map (·.offset)).reverse

inductive Ascent where
  | enclosed (offset : Nat)
  | topLevel
  | unbalanced (offset : Nat) (kind : Kind)
  deriving DecidableEq, Repr

def Ascent.offset? : Ascent → Option Nat
  | .enclosed offset => some offset
  | _ => none

/-- Walks back over brackets, the nearest one first. `pending` holds the kinds of the closing
brackets that are still to be met, the one to be met next first. -/
def climb (pending : List Kind) : List Placed → Ascent
  | [] => .topLevel
  | ⟨_, .closing kind⟩ :: rest => climb (kind :: pending) rest
  | ⟨offset, .opening kind⟩ :: rest =>
    match pending with
    | [] => .enclosed offset
    | awaited :: pending => if kind = awaited then climb pending rest else .unbalanced offset kind

def ascend (text : List Char) (cursor : Nat) : Ascent :=
  climb [] (before text cursor)

def enclosing? (text : List Char) (cursor : Nat) : Option Nat :=
  (ascend text cursor).offset?

end ArgHints.Bracket
