import ChatEngine.Calendar.ZoneNames
import ChatEngine.Config.Basic
import ChatEngine.Decimal.Shortest
import ChatEngine.Plugin.Service
import ChatEngine.Router

/-!
# Conversions of configuration values

Conversions of dynamic values to what a configuration field holds. Conversions are generous where
nothing is lost: numbers may be written as texts, and truth as a word or a number. What is not
accepted is an issue, and all issues of a configuration are reported together.
-/
namespace ChatEngine.Config

/-- Why a value does not fit a field. -/
inductive Issue where
  | missing
  | notText
  | notInteger
  | unreadableInteger
  | fractionalInteger
  | hugeInteger
  | notFinite
  | tooSmall (least : Int)
  | notBoolean
  | unreadableBoolean
  | notMapping
  | notGroup (name : String)
  | notPath
  | notOneOf (choices : List String)
  | rejected (reason : String)
  deriving DecidableEq, Repr

def choicesText : List String → String
  | [] => ""
  | [c] => Text.quote c
  | [c, d] => Text.quote c ++ " or " ++ Text.quote d
  | c :: cs => Text.quote c ++ ", " ++ choicesText cs

namespace Issue

def code : Issue → String
  | missing => "missing"
  | notText => "string_type"
  | notInteger => "int_type"
  | unreadableInteger => "int_parsing"
  | fractionalInteger => "int_from_float"
  | hugeInteger => "int_parsing_size"
  | notFinite => "finite_number"
  | tooSmall _ => "greater_than_equal"
  | notBoolean => "bool_type"
  | unreadableBoolean => "bool_parsing"
  | notMapping => "dict_type"
  | notGroup _ => "model_type"
  | notPath => "path_type"
  | notOneOf _ => "literal_error"
  | rejected _ => "value_error"

def message : Issue → String
  | missing => "Field required"
  | notText => "Input should be a valid string"
  | notInteger => "Input should be a valid integer"
  | unreadableInteger => "Input should be a valid integer, unable to parse string as an integer"
  | fractionalInteger => "Input should be a valid integer, got a number with a fractional part"
  | hugeInteger => "Unable to parse input string as an integer, exceeded maximum size"
  | notFinite => "Input should be a finite number"
  | tooSmall least => s!"Input should be greater than or equal to {least}"
  | notBoolean => "Input should be a valid boolean"
  | unreadableBoolean => "Input should be a valid boolean, unable to interpret input"
  | notMapping => "Input should be a valid dictionary"
  | notGroup name => s!"Input should be a valid dictionary or instance of {name}"
  | notPath => "Input is not a valid path"
  | notOneOf choices => "Input should be " ++ choicesText choices
  | rejected reason => "Value error, " ++ reason

end Issue

abbrev Conversion (α : Type) := Value → Except Issue α

def text : Conversion String
  | .str s => .ok s
  | _ => .error .notText

def optionalText : Conversion (Option String)
  | .null => .ok none
  | v => (text v).map some

def isWordOf (words : List String) (s : String) : Bool :=
  words.contains (String.ofList (s.toList.map Char.toLower))

/-- Zero and one as truth; a number of more than 64 bits is not looked at. -/
def truthOfInt (n : Int) : Except Issue Bool :=
  if n = 0 then .ok false else if n = 1 then .ok true
  else if -Nat.pow 2 63 ≤ n && n < Nat.pow 2 63 then .error .unreadableBoolean
  else .error .notBoolean

def truth : Conversion Bool
  | .bool b => .ok b
  | .str s =>
    if isWordOf ["0", "f", "n", "no", "off", "false"] s then .ok false
    else if isWordOf ["1", "t", "y", "on", "yes", "true"] s then .ok true
    else .error .unreadableBoolean
  | .int n => truthOfInt n
  | .float x => match Decimal.truncate? x with
    | some n => if Decimal.isIntegral x then truthOfInt n else .error .notBoolean
    | none => .error .notBoolean
  | _ => .error .notBoolean

def isNumberBlank (c : Char) : Bool := Text.isBlank c && !(0x1c ≤ c.toNat && c.toNat ≤ 0x1f)

/-- How long a number written as text may be, its sign included. -/
def maxIntegerLength : Nat := 4300

/-- Reads an integer in its canonical form: a minus sign or none, and digits of which the first is
no zero but for zero itself. -/
def readCanonical (cs : List Char) : Except Issue Int :=
  let (sign, digits) := if cs.head? = some '-' then (1, cs.drop 1) else (0, cs)
  let run := digits.takeWhile Char.isDigit
  if run.isEmpty || (run.head? = some '0' && 1 < run.length) then .error .unreadableInteger
  else if maxIntegerLength < sign + run.length then .error .hugeInteger
  else match Decimal.readNat? run with
    | some n =>
      if run.length < digits.length then .error .unreadableInteger
      else .ok (if sign = 1 then -(n : Int) else n)
    | none => .error .unreadableInteger

/-- What follows a leading zero: further zeros and underscores are skipped up to another digit, a
minus sign or a point, and before a point one character is kept. -/
def dropZeros : (last : Char) → List Char → Option (List Char)
  | last, [] => some [last]
  | last, c :: cs =>
    if c = '0' || c = '_' then dropZeros c cs
    else if c.isDigit || c = '-' then some (c :: cs)
    else if c = '.' then some (last :: c :: cs)
    else none

def withoutLeadingZeros : List Char → Option (List Char)
  | [] => none
  | c :: cs =>
    if c = '0' then dropZeros c cs else if c.isDigit || c = '-' then some (c :: cs) else none

/-- Drops a point and the zeros after it, of which there has to be one. -/
def withoutZeroFraction (cs : List Char) : List Char :=
  let fraction := (cs.dropWhile (· ≠ '.')).drop 1
  if !fraction.isEmpty && fraction.all (· == '0') then cs.takeWhile (· ≠ '.') else cs

def withoutUnderscores (cs : List Char) : List Char :=
  if cs.head? = some '_' || cs.getLast? = some '_' || Text.contains (String.ofList cs) "__" then cs
  else cs.filter (· ≠ '_')

def canonical? (s : String) : Option (List Char) := do
  let trimmed := ((s.toList.dropWhile isNumberBlank).reverse.dropWhile isNumberBlank).reverse
  let unsigned ← match trimmed with
    | '+' :: '-' :: _ => none
    | '+' :: cs => some cs
    | cs => some cs
  return withoutUnderscores (withoutZeroFraction (← withoutLeadingZeros unsigned))

/-- Reads an integer written as text: in its canonical form, or else generously. -/
def readInteger (s : String) : Except Issue Int :=
  match readCanonical s.toList with
  | .error .unreadableInteger => match (canonical? s).map readCanonical with
    | some (.ok n) => .ok n
    | _ => .error .unreadableInteger
  | read => read

def integer : Conversion Int
  | .int n => .ok n
  | .bool b => .ok (if b then 1 else 0)
  | .str s => readInteger s
  | .float x => match Decimal.truncate? x with
    | none => .error .notFinite
    | some n =>
      if !Decimal.isIntegral x then .error .fractionalInteger
      else if n.natAbs < Nat.pow 2 63 then .ok n
      else .error .hugeInteger
  | _ => .error .notInteger

def integerFrom (least : Int) : Conversion Int := fun v => do
  let n ← integer v
  if n < least then throw (.tooSmall least) else return n

/-- Refuses a count of partitions that is not positive, or has a bit besides its lowest one. -/
def checkPartitionCount (n : Int) : Except Issue Int :=
  if n ≤ 0 || n.toNat &&& (n.toNat - 1) != 0 then
    .error (.rejected (RouterError.partitionCount n).fault.message)
  else .ok n

def partitionCount : Conversion Int := fun v => do checkPartitionCount (← integer v)

def timeLocation : Conversion String := fun v => do
  let name ← text v
  if name = localLocation || Calendar.isZoneName name then return name
  else throw (.rejected (ConfigurationError.unknownZone name).message)

def path : Conversion String
  | .str s => .ok (Upload.normalPath s)
  | _ => .error .notPath

def oneOf (choices : List String) : Conversion String
  | .str s => if choices.contains s then .ok s else .error (.notOneOf choices)
  | _ => .error (.notOneOf choices)

end ChatEngine.Config
