import ChatEngine.Text.Quoted
import ChatEngine.Text.Trim

/-!
# Decimal integers

Decimal integers as text. Reading is generous: blanks around the number, a sign, digits of any
script and single underscores between digits; writing gives the one canonical form. Where the
numbers come from outside, reading and writing are bounded: no text may have more than 4300 digits.
-/
namespace ChatEngine.Decimal

open Text

/-- Reads the digits that follow a first one whose value is in the accumulator. -/
def readDigits? : Nat → List Char → Option Nat
  | acc, [] => some acc
  | acc, '_' :: c :: cs => (digitValue? c).bind fun d => readDigits? (10 * acc + d) cs
  | acc, c :: cs => (digitValue? c).bind fun d => readDigits? (10 * acc + d) cs

/-- Reads an unsigned number: a digit first, no underscore last. -/
def readNat? : List Char → Option Nat
  | [] => none
  | c :: cs => (digitValue? c).bind fun d => readDigits? d cs

/-- The number that ASCII digits denote. -/
def digitsValue (digits : List Char) : Nat :=
  digits.foldl (fun n c => 10 * n + (c.toNat - 48)) 0

/-- Whether the character may stand around a number: a blank, but none of the four separators of
information. -/
def isMargin (c : Char) : Bool := isBlank c && !(0x1c ≤ c.toNat && c.toNat ≤ 0x1f)

/-- The most digits that the text of an integer may have. -/
def maxDigits : Nat := 4300

/-- Why a text is not read as an integer, or an integer not written as text. -/
inductive IntegerError where
  /-- The text is not of the form of an integer. -/
  | malformed (text : String)
  /-- The text has too many digits. -/
  | tooLong (digits : Nat)
  /-- The integer would have too many digits. -/
  | tooLarge
  deriving DecidableEq, Repr

def IntegerError.message : IntegerError → String
  | .malformed text => "invalid literal for int() with base 10: " ++ take 200 (quote text)
  | .tooLong n =>
    s!"Exceeds the limit ({maxDigits} digits) for integer string conversion: value has {n} digits; "
      ++ "use sys.set_int_max_str_digits() to increase the limit"
  | .tooLarge =>
    s!"Exceeds the limit ({maxDigits} digits) for integer string conversion; "
      ++ "use sys.set_int_max_str_digits() to increase the limit"

def splitSign : List Char → Bool × List Char
  | '-' :: cs => (true, cs)
  | '+' :: cs => (false, cs)
  | cs => (false, cs)

/-- Reads the integer that a text denotes. The digits up to the first other character are counted
before that character is looked at. -/
def readInt (s : String) : Except IntegerError Int :=
  let inner := ((s.toList.dropWhile isMargin).reverse.dropWhile isMargin).reverse
  let (negative, unsigned) := splitSign inner
  let run := unsigned.takeWhile fun c => isDigit c || c == '_'
  match readNat? run with
  | none => .error (.malformed s)
  | some n =>
    let count := run.countP (· ≠ '_')
    if maxDigits < count then .error (.tooLong count)
    else if run.length < unsigned.length then .error (.malformed s)
    else .ok (if negative then -(n : Int) else n)

def parseInt? (s : String) : Option Int := (readInt s).toOption

def intText (n : Int) : String := toString n

def writeInt (n : Int) : Except IntegerError String :=
  if n.natAbs < Nat.pow 10 maxDigits then .ok (intText n) else .error .tooLarge

def digitsIn (base n : Nat) : String := String.ofList (Nat.toDigits base n)

end ChatEngine.Decimal
