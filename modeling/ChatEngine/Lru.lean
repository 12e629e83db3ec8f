import ChatEngine.Entries

/-!
# Least recently used maps

Bounded maps that forget the least recently used key. The entries are kept in order of use, the
latest first; finding a key and writing it are uses, asking whether it is present is not.
-/
namespace ChatEngine

/-- A bounded map, its entries from the latest used to the one used longest ago. -/
structure Lru (κ α : Type) where
  capacity : Nat
  entries : List (κ × α) := []

namespace Lru

variable {κ α : Type} [DecidableEq κ]

def size (m : Lru κ α) : Nat := m.entries.length

/-- The value of a key, without using it. -/
def peek? (m : Lru κ α) (key : κ) : Option α := Entries.get? key m.entries

def contains (m : Lru κ α) (key : κ) : Bool := (m.peek? key).isSome

/-- The value of a key, which becomes the latest used. -/
def get (m : Lru κ α) (key : κ) : Option α × Lru κ α :=
  match m.peek? key with
  | none => (none, m)
  | some v => (some v, { m with entries := (key, v) :: Entries.erase key m.entries })

/-- Writes a key, which becomes the latest used; a map that is full forgets the key used longest
ago to hold a new one. -/
def put (m : Lru κ α) (key : κ) (value : α) : Lru κ α :=
  { m with entries := ((key, value) :: Entries.erase key m.entries).take m.capacity }

def erase (m : Lru κ α) (key : κ) : Lru κ α := { m with entries := Entries.erase key m.entries }

end Lru

end ChatEngine
