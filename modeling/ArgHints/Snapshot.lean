import ArgHints.Bracket.Search
import ArgHints.Text

namespace ArgHints

namespace Text

/-- The offset that an end stands for: past the text it is the text's end, and before the text it
counts back from there. -/
def windowStop (length : Nat) (stop : Int) : Nat :=
  if stop < 0 then (length + stop).toNat else min stop.toNat length

def around (text : List Char) (cursor : Nat) (radius : Int) : List Char :=
  let start := (cursor - radius).toNat
  (text.take (windowStop text.length (cursor + radius))).drop start

end Text

structure Snapshot where
  text : List Char
  cursor : Nat
  cursor_le : cursor ≤ text.length

namespace Snapshot

def ofCursor (text : List Char) (cursor : Int) : Snapshot :=
  ⟨text, Text.clamp text cursor, Nat.min_le_right _ _⟩

def token (snapshot : Snapshot) : String :=
  String.ofList (Text.nameAt snapshot.text snapshot.cursor)

def ascent (snapshot : Snapshot) : Bracket.Ascent :=
  Bracket.ascend snapshot.text snapshot.cursor

def call? (snapshot : Snapshot) : Option String :=
  snapshot.ascent.offset?.bind fun opener =>
    let name := Text.nameAt snapshot.text opener
    if name.isEmpty then none else some (String.ofList name)

def nearby (snapshot : Snapshot) (radius : Int) : String :=
  String.ofList (Text.around snapshot.text snapshot.cursor radius)

def moveTo (snapshot : Snapshot) (cursor : Int) : Snapshot :=
  .ofCursor snapshot.text cursor

end Snapshot

end ArgHints
