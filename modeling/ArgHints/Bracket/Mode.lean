import ArgHints.Bracket.Search

/-!
# The lexical mode at an offset

The same division of a text into plain code, literals and comments, read one character at a time: a
mode says what the next character belongs to, and each character leads from one mode to the next. A
bracket belongs to plain code if the characters before it lead there.
-/

namespace ArgHints.Bracket

inductive Mode where
  | code
  | literal (quote : Quote)
  | escaped (quote : Quote)
  | comment
  deriving DecidableEq, Repr

def Mode.ofCover : Cover → Mode
  | .literal quote => .literal quote
  | .comment => .comment

def Mode.next : Mode → Char → Mode
  | .code, c => ((Cover.ofChar? c).map ofCover).getD .code
  | .literal quote, c =>
    if c == '\\' && quote.escapes then .escaped quote
    else if c == quote.toChar then .code
    else .literal quote
  | .escaped quote, _ => .literal quote
  | .comment, c => if c == '\n' then .code else .comment

def Mode.after (text : List Char) : Mode :=
  text.foldl Mode.next .code

def Mode.IsCodeAt (text : List Char) (offset : Nat) : Prop :=
  Mode.after (text.take offset) = .code

def StandsAt (text : List Char) (placed : Placed) : Prop :=
  Mode.IsCodeAt text placed.offset ∧ text[placed.offset]? = some placed.bracket.toChar

instance (text : List Char) (offset : Nat) : Decidable (Mode.IsCodeAt text offset) :=
  inferInstanceAs (Decidable (_ = _))

instance (text : List Char) (placed : Placed) : Decidable (StandsAt text placed) :=
  inferInstanceAs (Decidable (_ ∧ _))

end ArgHints.Bracket
