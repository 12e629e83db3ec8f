/-!
# Maps in insertion order

Maps as lists of entries in order of first insertion. Writing a key that is present keeps its
place.
-/
namespace ChatEngine.Entries

variable {κ α : Type} [DecidableEq κ]

def get? (key : κ) : List (κ × α) → Option α
  | [] => none
  | (k, v) :: rest => if k = key then some v else get? key rest

/-- Sets the value of a key, at its old place or at the end. -/
def put (key : κ) (value : α) : List (κ × α) → List (κ × α)
  | [] => [(key, value)]
  | (k, v) :: rest => if k = key then (k, value) :: rest else (k, v) :: put key value rest

def erase (key : κ) (entries : List (κ × α)) : List (κ × α) :=
  entries.filter fun e => e.1 ≠ key

def has (key : κ) (entries : List (κ × α)) : Bool := (get? key entries).isSome

/-- Writes all entries of the second map into the first, in order. -/
def update (entries more : List (κ × α)) : List (κ × α) :=
  more.foldl (fun acc e => put e.1 e.2 acc) entries

/-- The map that the entries describe: of two entries with one key the later value counts, at the
place of the earlier. -/
def ofList (entries : List (κ × α)) : List (κ × α) := update [] entries

@[simp] theorem get?_nil (key : κ) : get? key ([] : List (κ × α)) = none := rfl

/-- Writing a key changes what is found for that key and for no other. -/
theorem get?_put (key k : κ) (value : α) (entries : List (κ × α)) :
    get? k (put key value entries) = if k = key then some value else get? k entries := by
  induction entries with
  | nil => by_cases h : k = key <;> simp [put, get?, h, Ne.symm]
  | cons e rest ih =>
    obtain ⟨a, b⟩ := e
    by_cases h : a = key
    · subst h
      by_cases hk : a = k <;> simp [put, get?, hk, eq_comm]
      intro h'; exact absurd h'.symm hk
    · by_cases hk : a = k
      · subst hk; simp [put, get?, h]
      · simp [put, get?, h, hk, ih]

end ChatEngine.Entries
