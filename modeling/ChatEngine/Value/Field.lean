import ChatEngine.Decimal.Shortest
import ChatEngine.Value

/-!
# Fields with defaults

Reading the fields of a map with a default for those that are missing. A field that is null counts
as missing, unless its presence is what matters.
-/
namespace ChatEngine.Value

/-- The value of a field that is present and not null. -/
def field? (v : Value) (key : String) : Option Value :=
  match v.get? key with
  | some .null => none
  | other => other

def has (v : Value) (key : String) : Bool := (v.get? key).isSome

def at_ (v : Value) (key : String) : Value := (v.get? key).getD .null

/-- The text itself; other values have none. -/
def asText : Value → String
  | .str s => s
  | _ => ""

def asInt : Value → Int
  | .int n => n
  | .bool b => if b then 1 else 0
  | .float x => (Decimal.truncate? x).getD 0
  | _ => 0

/-- The number as a float. Truth is one, and the infinities and no number go by their names. -/
def asFloat : Value → Float
  | .bool b => if b then 1.0 else 0.0
  | .int n => Decimal.ofInt n
  | .float x => x
  | .str "inf" => 1.0 / 0.0
  | .str "-inf" => -(1.0 / 0.0)
  | .str "nan" => 0.0 / 0.0
  | _ => 0.0

def items : Value → List Value
  | .list vs | .tuple vs => vs
  | _ => []

def entries : Value → List (String × Value)
  | .map es => es
  | _ => []

/-- An item of a sequence, null if there is none. -/
def item (v : Value) (i : Nat) : Value := v.items[i]?.getD .null

def texts (v : Value) : List String := v.items.map asText

def textEntries (v : Value) : List (String × String) := v.entries.map fun (k, x) => (k, x.asText)

def textAt? (v : Value) (key : String) : Option String := (v.field? key).map asText

def textAt (v : Value) (key : String) (missing : String := "") : String :=
  (v.textAt? key).getD missing

def intAt (v : Value) (key : String) (missing : Int) : Int :=
  ((v.field? key).map asInt).getD missing

/-- The item that a field points to by its place; a place below zero counts from the end. -/
def pick? {α : Type} (v : Value) (key : String) (items : List α) : Option α :=
  match v.intAt key 0 with
  | .ofNat i => items[i]?
  | .negSucc i => items.reverse[i]?

def boolAt (v : Value) (key : String) (missing : Bool := false) : Bool :=
  ((v.field? key).map isTruthy).getD missing

def itemsAt (v : Value) (key : String) : List Value := ((v.field? key).map items).getD []

def textsAt (v : Value) (key : String) : List String := ((v.field? key).map texts).getD []

def entriesAt (v : Value) (key : String) : List (String × Value) :=
  ((v.field? key).map entries).getD []

def textEntriesAt (v : Value) (key : String) : List (String × String) :=
  ((v.field? key).map textEntries).getD []

end ChatEngine.Value
