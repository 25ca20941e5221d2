namespace ArgHints.Service

/-- Values under keys, the least recently used first. -/
structure Recent (α : Type) where
  entries : List (String × α)
  deriving DecidableEq, Repr

namespace Recent

variable {α : Type}

def empty : Recent α := ⟨[]⟩

def keys (recent : Recent α) : List String := recent.entries.map (·.1)

def get? (recent : Recent α) (key : String) : Option α :=
  (recent.entries.find? fun entry => entry.1 == key).map (·.2)

def erase (recent : Recent α) (key : String) : Recent α :=
  ⟨recent.entries.filter fun entry => entry.1 != key⟩

def replace (recent : Recent α) (key : String) (value : α) : Recent α :=
  ⟨recent.entries.map fun entry => if entry.1 = key then (key, value) else entry⟩

def excess (recent : Recent α) (capacity : Nat) : Nat :=
  recent.entries.length - capacity

/-- The value under a key, fresh if the key is not kept; the keys that are dropped, in order; and
what is kept then. -/
def use (capacity : Nat) (key : String) (fresh : α) (recent : Recent α) :
    α × List String × Recent α :=
  let value := (recent.get? key).getD fresh
  let moved : Recent α := ⟨(recent.erase key).entries ++ [(key, value)]⟩
  let excess := moved.excess capacity
  (value, moved.keys.take excess, ⟨moved.entries.drop excess⟩)

end Recent

end ArgHints.Service
