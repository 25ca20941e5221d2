import ArgHints.Inquiry
import ArgHints.Snapshot

namespace ArgHints

structure Memo.Entry where
  name : String
  doc : Option String
  deriving DecidableEq, Repr

structure Memo where
  entry : Option Memo.Entry := none
  deriving DecidableEq, Repr

namespace Memo

def empty : Memo := {}

def holds (memo : Memo) (name : String) : Bool :=
  memo.entry.any fun entry => entry.name == name

def store (_ : Memo) (name : String) (doc : Option String) : Memo :=
  ⟨some ⟨name, doc⟩⟩

def fetch (memo : Memo) (name : String) : Inquiry (Option String × Memo) :=
  if memo.holds name then .note (.memoHit name) (.done (memo.entry.bind (·.doc), memo))
  else .ask name fun doc => .done (doc, memo.store name doc)

end Memo

structure Hint where
  name : String
  doc : String
  deriving DecidableEq, Repr

namespace Hint

def text (showName : Bool) (hint : Hint) : String :=
  if !showName || hint.name.isEmpty then hint.doc
  else if hint.doc.isEmpty then hint.name
  else hint.name ++ ": " ++ hint.doc

def ofDoc? (emptyIsMissing : Bool) (name : String) (doc : Option String) : Option Hint :=
  doc.bind fun text => if emptyIsMissing && text.isEmpty then none else some ⟨name, text⟩

def nearbyRadius : Int := 20

def ofCall (emptyIsMissing : Bool) (snapshot : Snapshot) : Inquiry (Option Hint) :=
  .noteAll snapshot.ascent.events <|
    match snapshot.call? with
    | none => .note (.noCall (snapshot.nearby nearbyRadius)) (.done none)
    | some name =>
      .ask name fun doc =>
        .note (.callLookup name doc) (.done (ofDoc? emptyIsMissing name doc))

def find (emptyIsMissing : Bool) (snapshot : Snapshot) : Inquiry (Option Hint) :=
  if snapshot.token.isEmpty then ofCall emptyIsMissing snapshot
  else
    .ask snapshot.token fun doc =>
      .note (.tokenLookup snapshot.token doc) <|
        match ofDoc? emptyIsMissing snapshot.token doc with
        | some hint => .done (some hint)
        | none => ofCall emptyIsMissing snapshot

def resolve (emptyIsMissing active : Bool) (snapshot : Snapshot) : Inquiry (Option String) :=
  if active then (find emptyIsMissing snapshot).map (·.map Hint.doc) else .done none

def resolveCached (active : Bool) (snapshot : Snapshot) (memo : Memo) :
    Inquiry (Option String × Memo) :=
  if active && !snapshot.token.isEmpty then memo.fetch snapshot.token else .done (none, memo)

end Hint

end ArgHints
