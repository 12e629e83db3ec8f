import ChatEngine.Decimal.Integer
import ChatEngine.Decimal.Shortest
import ChatEngine.Entries
import ChatEngine.Text.Trim
import ChatEngine.Value

/-!
# Reading JSON

Reading JSON text. Every reader takes characters and gives what it read together with the
characters after it; a text that is no JSON gives nothing.
-/
namespace ChatEngine.Json

def isSpace (c : Char) : Bool := c == ' ' || c == '\t' || c == '\n' || c == '\r'

def unescape? : Char → Option Char
  | '"' => some '"'
  | '\\' => some '\\'
  | '/' => some '/'
  | 'b' => some '\x08'
  | 'f' => some '\x0c'
  | 'n' => some '\n'
  | 'r' => some '\r'
  | 't' => some '\t'
  | _ => none

/-- Adds a code unit to the characters read, latest first. A high surrogate waits for the low one
that completes it; `high` is the one that waits. -/
def addUnit (high : Option Nat) (unit : Nat) (acc : List Char) : Option Nat × List Char :=
  match high with
  | some h =>
    if 0xdc00 ≤ unit && unit < 0xe000 then
      (none, Char.ofNat (0x10000 + (h - 0xd800) * 0x400 + (unit - 0xdc00)) :: acc)
    else if 0xd800 ≤ unit && unit < 0xdc00 then (some unit, '\ufffd' :: acc)
    else (none, Char.ofNat unit :: '\ufffd' :: acc)
  | none =>
    if 0xd800 ≤ unit && unit < 0xdc00 then (some unit, acc)
    else if 0xdc00 ≤ unit && unit < 0xe000 then (none, '\ufffd' :: acc)
    else (none, Char.ofNat unit :: acc)

def closePair (high : Option Nat) (acc : List Char) : List Char :=
  if high.isSome then '\ufffd' :: acc else acc

def readText? (high : Option Nat) (acc : List Char) : List Char → Option (String × List Char)
  | [] => none
  | '"' :: rest => some (String.ofList (closePair high acc).reverse, rest)
  | '\\' :: 'u' :: a :: b :: c :: d :: rest =>
    match Text.hexNumber? [a, b, c, d] with
    | none => none
    | some unit =>
      let (high, acc) := addUnit high unit acc
      readText? high acc rest
  | '\\' :: c :: rest =>
    match unescape? c with
    | none => none
    | some c => readText? none (c :: closePair high acc) rest
  | c :: rest => if c.toNat < 0x20 then none else readText? none (c :: closePair high acc) rest

def digits (cs : List Char) : List Char × List Char := cs.span Char.isDigit

def readExponent (cs : List Char) : Option Int × List Char :=
  let unsigned (negative : Bool) (rest : List Char) : Option Int × List Char :=
    match digits rest with
    | ([], _) => (none, cs)
    | (ds, rest) =>
      let size : Int := Decimal.digitsValue ds
      (some (if negative then -size else size), rest)
  match cs with
  | 'e' :: '-' :: rest | 'E' :: '-' :: rest => unsigned true rest
  | 'e' :: '+' :: rest | 'E' :: '+' :: rest => unsigned false rest
  | 'e' :: rest | 'E' :: rest => unsigned false rest
  | _ => (none, cs)

/-- The fraction digits of a number, if a point is written. -/
def readFraction (cs : List Char) : Option (List Char) × List Char :=
  match cs with
  | '.' :: rest =>
    match digits rest with
    | ([], _) => (none, cs)
    | (ds, rest) => (some ds, rest)
  | _ => (none, cs)

def floatOf (negative : Bool) (digits : List Char) (exponent : Int) : Float :=
  let x := Decimal.ofDigits digits exponent
  if negative then -x else x

/-- Reads a number. A fraction or an exponent makes it a float; an integer may not have too many
digits. -/
def readNumber? (cs : List Char) : Option (Value × List Char) :=
  let (negative, cs) := match cs with
    | '-' :: rest => (true, rest)
    | _ => (false, cs)
  let (whole, rest) := digits cs
  if whole.isEmpty || (whole.length ≠ 1 && whole.head? = some '0') then none
  else
    let (fraction, rest) := readFraction rest
    let (exponent, rest) := readExponent rest
    if fraction.isSome || exponent.isSome then
      let decimals := fraction.getD []
      some (.float (floatOf negative (whole ++ decimals) (exponent.getD 0 - decimals.length)), rest)
    else if Decimal.maxDigits < whole.length then none
    else
      let n : Int := Decimal.digitsValue whole
      some (.int (if negative then -n else n), rest)

def floatNames : List (List Char × Float) :=
  [("NaN".toList, 0.0 / 0.0), ("Infinity".toList, 1.0 / 0.0), ("-Infinity".toList, -(1.0 / 0.0))]

def readFloatName? (cs : List Char) : Option (Value × List Char) :=
  floatNames.findSome? fun (name, x) => (Text.dropLead? name cs).map fun rest => (.float x, rest)

/-- What is read next: a value, or the items or members that follow those already read. -/
inductive Piece where
  | value
  | items (acc : List Value)
  | members (acc : List (String × Value))

/-- Reads a piece, of at most `fuel` nested or successive ones. -/
def readPiece? : Nat → Piece → List Char → Option (Value × List Char)
  | 0, _, _ => none
  | fuel + 1, .value, cs => match cs.dropWhile isSpace with
    | '"' :: rest => (readText? none [] rest).map fun (s, rest) => (.str s, rest)
    | '[' :: rest => match rest.dropWhile isSpace with
      | ']' :: rest => some (.list [], rest)
      | rest => readPiece? fuel (.items []) rest
    | '\x7b' :: rest => match rest.dropWhile isSpace with
      | '\x7d' :: rest => some (.map [], rest)
      | rest => readPiece? fuel (.members []) rest
    | 't' :: 'r' :: 'u' :: 'e' :: rest => some (.bool true, rest)
    | 'f' :: 'a' :: 'l' :: 's' :: 'e' :: rest => some (.bool false, rest)
    | 'n' :: 'u' :: 'l' :: 'l' :: rest => some (.null, rest)
    | rest => (readFloatName? rest).or (readNumber? rest)
  | fuel + 1, .items acc, cs => do
    let (v, rest) ← readPiece? fuel .value cs
    match rest.dropWhile isSpace with
    | ',' :: rest => readPiece? fuel (.items (v :: acc)) rest
    | ']' :: rest => some (.list (v :: acc).reverse, rest)
    | _ => none
  | fuel + 1, .members acc, cs => do
    match cs.dropWhile isSpace with
    | '"' :: rest =>
      let (key, rest) ← readText? none [] rest
      match rest.dropWhile isSpace with
      | ':' :: rest =>
        let (v, rest) ← readPiece? fuel .value rest
        match rest.dropWhile isSpace with
        | ',' :: rest => readPiece? fuel (.members ((key, v) :: acc)) rest
        | '\x7d' :: rest => some (.map (Entries.ofList ((key, v) :: acc).reverse), rest)
        | _ => none
      | _ => none
    | _ => none

/-- The value that a text denotes. Each piece takes at least one character, so the length of the
text bounds their number. -/
def read? (s : String) : Option Value :=
  match readPiece? (2 * s.length + 2) .value s.toList with
  | some (v, rest) => if rest.all isSpace then some v else none
  | none => none

end ChatEngine.Json
