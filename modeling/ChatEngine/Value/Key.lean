import ChatEngine.Value

/-!
# Keys of tables

Tables: maps whose keys are values. Two keys are the same when they are equal as numbers, as texts
or as moments; a truth value counts as a number.
-/
namespace ChatEngine.Value

def fraction? : Value → Option (Int × Nat)
  | .bool b => some (if b then 1 else 0, 1)
  | .int n => some (n, 1)
  | .float x => match Decimal.classify x with
    | .finite negative b =>
      let size : Int := b.value.num
      some (if negative then -size else size, b.value.den)
    | _ => none
  | _ => none

def sameKey (a b : Value) : Bool :=
  match a.fraction?, b.fraction? with
  | some (m, p), some (n, q) => m * q == n * p
  | none, none => match a, b with
    | .null, .null => true
    | .float x, .float y => x == y
    | .str s, .str t => s == t
    | .moment s, .moment t => s.same t
    | _, _ => false
  | _, _ => false

/-- Sets the value of a key, at its old place or at the end. -/
def putPair (key value : Value) : List (Value × Value) → List (Value × Value)
  | [] => [(key, value)]
  | (k, v) :: rest => if k.sameKey key then (k, value) :: rest else (k, v) :: putPair key value rest

def pairAt? (key : Value) (pairs : List (Value × Value)) : Option Value :=
  (pairs.find? fun e => e.1.sameKey key).map (·.2)

/-- The map of the given entries, a table only if there is a key that is no text. -/
def ofPairs (pairs : List (Value × Value)) : Value :=
  let texts := pairs.filterMap fun e => match e.1 with
    | .str s => some (s, e.2)
    | _ => none
  if texts.length = pairs.length then .map texts else .table pairs

def pairs? : Value → Option (List (Value × Value))
  | .map entries => some (entries.map fun (k, v) => (.str k, v))
  | .table entries => some entries
  | _ => none

/-- Two maps as one; maps inside, so many levels deep, are merged likewise, and else the second
value counts. -/
def merge : (depth : Nat) → Value → Value → Value
  | 0, _, new => new
  | depth + 1, old, new =>
    match old.pairs?, new.pairs? with
    | some base, some more => ofPairs <| more.foldl (fun acc (k, v) =>
        putPair k ((pairAt? k acc).elim v fun x => merge depth x v) acc) base
    | _, _ => new

end ChatEngine.Value
