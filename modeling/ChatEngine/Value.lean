import ChatEngine.Calendar.Moment
import ChatEngine.Decimal.Shortest
import ChatEngine.Text.Quoted

/-!
# Dynamic values

Dynamic values: what configuration sub-trees, content blocks, log fields and format arguments
hold. A map keeps its entries in order of insertion; one with a key that is no text is a table.
-/
namespace ChatEngine

/-- A dynamic value. -/
inductive Value where
  | null
  | bool (b : Bool)
  | int (n : Int)
  | float (x : Float)
  | str (s : String)
  | moment (m : Calendar.Moment)
  | list (items : List Value)
  | tuple (items : List Value)
  | map (entries : List (String × Value))
  | table (entries : List (Value × Value))
  deriving Inhabited

namespace Value

def ofOption : Option String → Value
  | some s => .str s
  | none => .null

def get? (v : Value) (key : String) : Option Value :=
  match v with
  | .map entries => entries.lookup key
  | _ => none

/-- Whether the value counts as true: not null, not false, not zero and not empty. -/
def isTruthy : Value → Bool
  | .null => false
  | .bool b => b
  | .int n => n != 0
  | .float x => x != 0.0
  | .str s => !s.isEmpty
  | .moment _ => true
  | .list items | .tuple items => !items.isEmpty
  | .map entries => !entries.isEmpty
  | .table entries => !entries.isEmpty

def typeName : Value → String
  | .null => "NoneType"
  | .bool _ => "bool"
  | .int _ => "int"
  | .float _ => "float"
  | .str _ => "str"
  | .moment m => m.typeName
  | .list _ => "list"
  | .tuple _ => "tuple"
  | .map _ | .table _ => "dict"

def separator (first : Bool) : String := if first then "" else ", "

mutual

/-- The value as written inside another value: texts are quoted. -/
def quoted : Value → String
  | .null => "None"
  | .bool b => if b then "True" else "False"
  | .int n => Decimal.intText n
  | .float x => Decimal.floatText x
  | .str s => Text.quote s
  | .moment m => m.quoted
  | .list items => "[" ++ quotedItems true items ++ "]"
  | .tuple items => "(" ++ quotedItems true items ++ (if items.length = 1 then ",)" else ")")
  | .map entries => "\x7b" ++ quotedEntries true entries ++ "\x7d"
  | .table entries => "\x7b" ++ quotedPairs true entries ++ "\x7d"

def quotedItems : Bool → List Value → String
  | _, [] => ""
  | first, v :: vs => separator first ++ v.quoted ++ quotedItems false vs

def quotedEntries : Bool → List (String × Value) → String
  | _, [] => ""
  | first, (k, v) :: es =>
    separator first ++ Text.quote k ++ ": " ++ v.quoted ++ quotedEntries false es

def quotedPairs : Bool → List (Value × Value) → String
  | _, [] => ""
  | first, (k, v) :: es =>
    separator first ++ k.quoted ++ ": " ++ v.quoted ++ quotedPairs false es

end

def text : Value → String
  | .str s => s
  | v => v.quoted

end Value

def quotedList (items : List String) : String := (Value.list (items.map .str)).quoted

def quotedMap (entries : List (String × String)) : String :=
  (Value.map (entries.map fun (k, v) => (k, .str v))).quoted

end ChatEngine
