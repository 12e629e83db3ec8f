import ChatEngine.Value

/-!
# Writing JSON

Values as JSON text on one line.
-/
namespace ChatEngine.Json

/-- One character inside a JSON text: quotes, backslashes and control characters are escaped. -/
def escape (c : Char) : List Char :=
  if c = '"' then ['\\', '"']
  else if c = '\\' then ['\\', '\\']
  else if c = '\n' then ['\\', 'n']
  else if c = '\r' then ['\\', 'r']
  else if c = '\t' then ['\\', 't']
  else if c.toNat < 0x20 then '\\' :: 'u' :: Text.hexText 4 c.toNat
  else [c]

def textForm (s : String) : String := String.ofList ('"' :: s.toList.flatMap escape ++ ['"'])

/-- A float as a number; what is no finite number has a name of its own. -/
def floatForm (x : Float) : String :=
  match Decimal.classify x with
  | .nan => "NaN"
  | .infinite negative => if negative then "-Infinity" else "Infinity"
  | .finite .. => Decimal.floatText x

def keyForm : Value → String
  | .null => "null"
  | .bool b => if b then "true" else "false"
  | .float x => floatForm x
  | v => v.text

mutual

def form : Value → String
  | .null => "null"
  | .bool b => if b then "true" else "false"
  | .int n => Decimal.intText n
  | .float x => floatForm x
  | .str s => textForm s
  | .moment m => textForm m.text
  | .list items | .tuple items => "[" ++ itemForms true items ++ "]"
  | .map entries => "\x7b" ++ entryForms true entries ++ "\x7d"
  | .table entries => "\x7b" ++ pairForms true entries ++ "\x7d"

def itemForms : Bool → List Value → String
  | _, [] => ""
  | first, v :: vs => Value.separator first ++ form v ++ itemForms false vs

def entryForms : Bool → List (String × Value) → String
  | _, [] => ""
  | first, (k, v) :: es =>
    Value.separator first ++ textForm k ++ ": " ++ form v ++ entryForms false es

def pairForms : Bool → List (Value × Value) → String
  | _, [] => ""
  | first, (k, v) :: es =>
    Value.separator first ++ textForm (keyForm k) ++ ": " ++ form v ++ pairForms false es

end

end ChatEngine.Json
