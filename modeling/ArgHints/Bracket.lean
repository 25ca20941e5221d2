namespace ArgHints

namespace Bracket

inductive Kind where
  | round
  | square
  | curly
  deriving DecidableEq, Repr

def Kind.opener : Kind → Char
  | .round => '('
  | .square => '['
  | .curly => '\x7b'

def Kind.closer : Kind → Char
  | .round => ')'
  | .square => ']'
  | .curly => '\x7d'

end Bracket

inductive Bracket where
  | opening (kind : Bracket.Kind)
  | closing (kind : Bracket.Kind)
  deriving DecidableEq, Repr

namespace Bracket

def ofChar? : Char → Option Bracket
  | '(' => some (.opening .round)
  | '[' => some (.opening .square)
  | '\x7b' => some (.opening .curly)
  | ')' => some (.closing .round)
  | ']' => some (.closing .square)
  | '\x7d' => some (.closing .curly)
  | _ => none

def toChar : Bracket → Char
  | .opening kind => kind.opener
  | .closing kind => kind.closer

@[simp] theorem ofChar?_toChar (bracket : Bracket) : ofChar? bracket.toChar = some bracket := by
  rcases bracket with kind | kind <;> cases kind <;> rfl

structure Placed where
  offset : Nat
  bracket : Bracket
  deriving DecidableEq, Repr

/-- Words of brackets in which each closing bracket meets an opening one of its kind. -/
inductive WellNested : List Bracket → Prop where
  | nil : WellNested []
  | cons (kind : Kind) {inner rest : List Bracket} :
      WellNested inner → WellNested rest →
        WellNested (.opening kind :: inner ++ .closing kind :: rest)

inductive Mark where
  | opener (offset : Nat) (kind : Kind)
  /-- A closing bracket that met no opening one of its kind. -/
  | barrier
  deriving DecidableEq, Repr

def Mark.push (stack : List Mark) : Placed → List Mark
  | ⟨offset, .opening kind⟩ => .opener offset kind :: stack
  | ⟨_, .closing kind⟩ =>
    match stack with
    | .opener offset top :: rest =>
      if top = kind then rest else .barrier :: .opener offset top :: rest
    | _ => .barrier :: stack

def openStack (brackets : List Placed) : List Mark :=
  brackets.foldl Mark.push []

def reachable : List Mark → List Nat
  | .opener offset _ :: rest => offset :: reachable rest
  | _ => []

end Bracket

end ArgHints
