import ChatEngine.Effect

/-!
# Stores of texts

Stores of texts by key, such as plugins keep their data in, and the store that keeps them in
memory. A closed store refuses every operation.
-/
namespace ChatEngine

/-- The operations of a store inside some state. -/
structure StringStore (σ : Type) where
  /-- The value at a key, which has to be there. -/
  get : (key : String) → Effect σ String
  put : (key value : String) → Effect σ Unit
  scan : Effect σ (List (String × String))

/-- A store in memory. -/
structure MemoryStore where
  name : String := "memory"
  entries : List (String × String) := []
  closed : Bool := false

namespace MemoryStore

def checkOpen (s : MemoryStore) : Except Fault Unit :=
  if s.closed then .error (.runtime s!"Store [{s.name}] is closed") else .ok ()

def get (s : MemoryStore) (key : String) : Except Fault String := do
  s.checkOpen
  match Entries.get? key s.entries with
  | some value => return value
  | none => throw (.missingKey key)

def put (s : MemoryStore) (key value : String) : Except Fault MemoryStore := do
  s.checkOpen
  return { s with entries := Entries.put key value s.entries }

/-- Removes a key, present or not. -/
def delete (s : MemoryStore) (key : String) : Except Fault MemoryStore := do
  s.checkOpen
  return { s with entries := Entries.erase key s.entries }

def scan (s : MemoryStore) : Except Fault (List (String × String)) := do
  s.checkOpen
  return s.entries

def size (s : MemoryStore) : Nat := s.entries.length

/-- Closes the store; a log entry says so the first time. -/
def close (s : MemoryStore) : MemoryStore × Option LogEntry :=
  if s.closed then (s, none)
  else ({ s with closed := true },
    some ⟨.debug, "store_closed", [("store", .str s.name), ("entries", .int s.size)]⟩)

end MemoryStore

end ChatEngine
