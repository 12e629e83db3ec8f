import ChatEngine.Json.Reader
import ChatEngine.Value.Key
import ChatEngine.Yaml.Node.Parser

/-!
# The values of YAML nodes

What nodes denote. Nodes are looked at level by level, the outermost first and each level in order,
and the first that does not denote what its tag says is the error.
-/
namespace ChatEngine.Yaml

def readTruth (text : String) : Except ScalarError Bool :=
  let word := Text.lower text
  if trueWords.contains word then .ok true
  else if falseWords.contains word then .ok false
  else .error (.notTruth word)

/-- The float of a text, which may be written like an integer or without an exponent's sign. -/
def plainFloat? (text : String) : Option Float :=
  match readFloat text.toList, Json.read? text with
  | .ok x, _ => some x
  | .error _, some (.float x) => some x
  | .error _, some (.int n) => some (Decimal.ofInt n)
  | .error _, _ => none

/-- The float of a text; the error tells the first part between colons that is none. -/
def readAnyFloat (text : String) : Except ScalarError Float :=
  match plainFloat? text with
  | some x => .ok x
  | none =>
    let bare := (Text.lower text).toList.filter (· ≠ '_')
    let parts := (sixties (signed bare).2).map String.ofList
    .error (if bare.isEmpty then .empty
      else .notFloat ((parts.find? fun part => (plainFloat? part).isNone).getD ""))

/-- What the text of a scalar denotes by its tag; binary data stay as they are written. -/
def scalarValue (tag : Tag) (text : String) : Except ScalarError Value :=
  match tag with
  | .null => .ok .null
  | .bool => (readTruth text).map .bool
  | .int => (readInteger text.toList).map .int
  | .float => (readAnyFloat text).map .float
  | .timestamp => (readMoment text.toList).map .moment
  | _ => .ok (.str text)

namespace Node

/-- Checks a node as soon as it is met: a scalar altogether, and of any other only that its tag is
known and not one of scalars. -/
def check (n : Node) : Except Error Unit :=
  match n.tag with
  | .seq | .map | .orderedMap | .pairs | .set => .ok ()
  | .merge | .value | .other _ => .error (.found (.unknownTag n.tag.name) n.start)
  | tag => match n with
    | scalar _ _ text => ((scalarValue tag text).map fun _ => ()).mapError .scalar
    | _ => .error (.found (.wrongNode "scalar" n.kindName) n.start)

/-- Checks a key of the mapping that starts at `owner`: it has to be a scalar. -/
def checkKey (owner : Cursor) (key : Node) : Except Error Unit := do
  if key.tag ≠ .value then check key
  if !key.isScalar || [.seq, .map, .orderedMap, .pairs, .set].contains key.tag then
    throw (.within .mapping (some owner) .unhashableKey key.start)

/-- Checks the entries of a mapping in order. -/
def checkEntries (owner : Cursor) : List (Node × Node) → Except Error Unit
  | [] => .ok ()
  | (key, value) :: rest => do
    checkKey owner key
    check value
    checkEntries owner rest

/-- Checks an item of an ordered map or of pairs, which is a mapping of one entry. -/
def checkPair (context : Context) (owner : Cursor) : Node → Except Error (List Node)
  | mapping _ _ [(key, value)] _ => do
    check key
    check value
    return [key, value]
  | mapping _ start entries _ =>
    .error (.within context (some owner) (.itemCount entries.length) start)
  | n => .error (.within context (some owner) (.notSingleMapping n.kindName) n.start)

def checkPairs (context : Context) : Node → Except Error (List Node)
  | sequence _ start items => return (← items.mapM (checkPair context start)).flatten
  | n => .error (.within context (some n.start) (.notSequence n.kindName) n.start)

def checkContent (n : Node) : Except Error (List Node) :=
  match n.tag, n with
  | .seq, sequence _ _ items => do
    items.forM check
    return items
  | .seq, _ => .error (.found (.wrongNode "sequence" n.kindName) n.start)
  | .map, mapping _ start entries broken | .set, mapping _ start entries broken => do
    if let some e := broken then throw e
    checkEntries start entries
    return entries.map (·.2)
  | .map, _ | .set, _ => .error (.found (.wrongNode "mapping" n.kindName) n.start)
  | .orderedMap, _ => checkPairs .orderedMap n
  | .pairs, _ => checkPairs .pairs n
  | _, _ => .ok []

def checkLevels : (fuel : Nat) → List Node → Except Error Unit
  | 0, _ | _, [] => .ok ()
  | fuel + 1, level => do
    let inside ← level.mapM checkContent
    checkLevels fuel inside.flatten

mutual

def value : Node → Value
  | scalar tag _ text => match scalarValue tag text with
    | .ok v => v
    | .error _ => .null
  | sequence tag _ items => match tag with
    | .orderedMap | .pairs => .list (pairValues items)
    | _ => .list (itemValues items)
  | mapping tag _ entries _ =>
    let pairs := (entryValues entries).foldl (fun acc (k, v) => Value.putPair k v acc) []
    match tag with
    | .set => .list (pairs.map (·.1))
    | _ => Value.ofPairs pairs

def itemValues : List Node → List Value
  | [] => []
  | n :: rest => value n :: itemValues rest

def pairValues : List Node → List Value
  | [] => []
  | mapping _ _ entries _ :: rest =>
    (entryValues entries).map (fun (k, v) => .tuple [k, v]) ++ pairValues rest
  | _ :: rest => pairValues rest

def entryValues : List (Node × Node) → List (Value × Value)
  | [] => []
  | (k, v) :: rest => (value k, value v) :: entryValues rest

end

end Node

def isPrintable (c : Char) : Bool :=
  let n := c.toNat
  n == 0x9 || n == 0xa || n == 0xd || (0x20 ≤ n && n ≤ 0x7e) || n == 0x85
    || (0xa0 ≤ n && n ≤ 0xfffd) || 0x10000 ≤ n

/-- What the document of a text denotes; no document denotes null. -/
def read (text : String) : Except Error Value := do
  let cs := text.toList
  if let some c := cs.find? (!isPrintable ·) then
    throw (.unprintable c (cs.takeWhile isPrintable).length)
  match ← Node.ofText text with
  | none => return .null
  | some node => do
    node.check
    Node.checkLevels (cs.length + 1) [node]
    return node.value

end ChatEngine.Yaml
