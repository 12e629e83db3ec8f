import ChatEngine.Decimal.Integer

/-!
# Shortest decimals of floating point numbers

Floating point numbers as text. A finite double is an exact fraction `m · 2^q`; its shortest text
has the fewest digits whose value rounds back to it, nearest to the exact value among those.
Fixed places and scientific form round the exact fraction, a half going to the even neighbour.
-/
namespace ChatEngine.Decimal

/-- A finite double without its sign: `mantissa · 2^exponent`. -/
structure Binary where
  mantissa : Nat
  exponent : Int
  /-- Whether the next smaller double is only half as far as the next larger one. -/
  narrowBelow : Bool

/-- What a double is. -/
inductive FloatClass where
  | nan
  | infinite (negative : Bool)
  | finite (negative : Bool) (value : Binary)

def classify (x : Float) : FloatClass :=
  let bits : Nat := x.toBits.toNat
  let negative := bits / Nat.pow 2 63 == 1
  let biased : Nat := bits / Nat.pow 2 52 % Nat.pow 2 11
  let fraction : Nat := bits % Nat.pow 2 52
  if biased = 2047 then
    if fraction = 0 then .infinite negative else .nan
  else if biased = 0 then .finite negative ⟨fraction, -1074, false⟩
  else
    let narrow := fraction == 0 && biased > 1
    .finite negative ⟨Nat.pow 2 52 + fraction, (biased : Int) - 1075, narrow⟩

/-- A non-negative fraction. -/
structure Fraction where
  num : Nat
  den : Nat

def Fraction.scaled (n base : Nat) (e : Int) : Fraction :=
  if 0 ≤ e then ⟨n * Nat.pow base e.toNat, 1⟩ else ⟨n, Nat.pow base (-e).toNat⟩

def Binary.value (b : Binary) : Fraction := .scaled b.mantissa 2 b.exponent

/-- The quotient rounded to the nearest integer, a half to the even one. -/
def roundDiv (num den : Nat) : Nat :=
  let q := num / den
  let r := num % den
  if 2 * r < den then q
  else if 2 * r > den then q + 1
  else if q % 2 = 0 then q else q + 1

/-- Whether `digits · 10^place` rounds to the double: it lies in the interval halfway to the two
neighbours, whose ends belong to it when the mantissa is even. -/
def Binary.roundsTo (b : Binary) (digits : Nat) (place : Int) : Bool :=
  let d := Fraction.scaled digits 10 place
  let low := Fraction.scaled (if b.narrowBelow then 4 * b.mantissa - 1 else 4 * b.mantissa - 2) 2
    (b.exponent - 2)
  let high := Fraction.scaled (4 * b.mantissa + 2) 2 (b.exponent - 2)
  let closed := b.mantissa % 2 == 0
  let above := if closed then low.num * d.den ≤ d.num * low.den
    else low.num * d.den < d.num * low.den
  let below := if closed then d.num * high.den ≤ high.num * d.den
    else d.num * high.den < high.num * d.den
  above && below

/-- The number of decimal digits before the point, counted from the first non-zero digit: the
least `p` with `value < 10^p`. -/
def Binary.pointPosition (b : Binary) : Int :=
  let v := b.value
  if v.den ≤ v.num then ((Nat.toDigits 10 (v.num / v.den)).length : Int)
  else
    let p : Int := -((Nat.toDigits 10 (v.den / v.num)).length : Int) + 1
    if v.num * Nat.pow 10 (-p).toNat < v.den then p else p + 1

/-- A decimal number: `digits · 10^place`. -/
structure Digits where
  digits : Nat
  place : Int

/-- The nearest decimal with the last digit at `place`, when one of the two neighbours of the
exact value rounds back to it. -/
def Binary.onGrid? (b : Binary) (place : Int) : Option Digits :=
  let v := b.value
  let unit := Fraction.scaled 1 10 place
  let num := v.num * unit.den
  let den := v.den * unit.num
  let near := roundDiv num den
  let far := if near = num / den then near + 1 else near - 1
  if b.roundsTo near place then some ⟨near, place⟩
  else if b.roundsTo far place then some ⟨far, place⟩
  else none

/-- The shortest decimal that rounds to a non-zero double. -/
def Binary.shortest (b : Binary) : Digits :=
  let p := b.pointPosition
  ((List.range 17).findSome? fun (n : Nat) => b.onGrid? (p - (n + 1 : Nat))).getD
    ⟨roundDiv b.value.num b.value.den, 0⟩

def digitChars (n : Nat) : List Char := Nat.toDigits 10 n

/-- An exponent with its sign and at least two digits. -/
def exponentText (e : Int) : String :=
  let digits := digitChars e.natAbs
  (if e < 0 then "-" else "+")
    ++ String.ofList (if digits.length < 2 then '0' :: digits else digits)

/-- Lays out digits whose point stands after the first `p`: positional below `10^16` and from
`10^-4` on, with a digit on both sides of the point, in scientific form otherwise. -/
def layOut (digits : List Char) (p : Int) : String :=
  let exponent := p - 1
  if exponent < -4 || 16 ≤ exponent then
    let rest := digits.drop 1
    String.ofList (digits.take 1 ++ (if rest.isEmpty then [] else '.' :: rest)) ++ "e"
      ++ exponentText exponent
  else if p ≤ 0 then
    String.ofList ('0' :: '.' :: List.replicate (-p).toNat '0' ++ digits)
  else
    let whole := digits.take p.toNat
    let padding := List.replicate (p.toNat - whole.length) '0'
    let rest := digits.drop p.toNat
    String.ofList (whole ++ padding ++ '.' :: (if rest.isEmpty then ['0'] else rest))

def stripZeros (digits : List Char) : List Char := (digits.reverse.dropWhile (· == '0')).reverse

def floatText (x : Float) : String :=
  match classify x with
  | .nan => "nan"
  | .infinite negative => if negative then "-inf" else "inf"
  | .finite negative b =>
    let sign := if negative then "-" else ""
    if b.mantissa = 0 then sign ++ "0.0"
    else
      let d := b.shortest
      let digits := digitChars d.digits
      sign ++ layOut (stripZeros digits) (digits.length + d.place)

/-- What stands after the first digits: the point and the rest. Without a rest the point is left
out unless it is to be kept. -/
def afterPoint (keep : Bool) (rest : List Char) : List Char :=
  if rest.isEmpty && !keep then [] else '.' :: rest

def pointed (digits places : Nat) (keep : Bool) : String :=
  let chars := digitChars digits
  let padded := List.replicate (places + 1 - chars.length) '0' ++ chars
  let whole := padded.length - places
  String.ofList (padded.take whole ++ afterPoint keep (padded.drop whole))

def Fraction.fixed (v : Fraction) (places : Nat) (keep : Bool := false) : String :=
  pointed (roundDiv (v.num * Nat.pow 10 places) v.den) places keep

/-- The digits of a value rounded to `count` significant ones, and the exponent of the first
digit; zero has as many zeros. -/
def Binary.significant (b : Binary) (count : Nat) : List Char × Int :=
  if b.mantissa = 0 then (List.replicate count '0', 0)
  else
    let p := b.pointPosition
    let v := b.value
    let unit := Fraction.scaled 1 10 (p - count)
    let n := roundDiv (v.num * unit.den) (v.den * unit.num)
    let digits := digitChars n
    if digits.length > count then (digits.take count, p) else (digits, p - 1)

/-- Digits in scientific form, the point after the first. -/
def scientificForm (digits : List Char) (exponent : Int) (keep : Bool) : String :=
  String.ofList (digits.take 1 ++ afterPoint keep (digits.drop 1)) ++ "e" ++ exponentText exponent

def Binary.scientific (b : Binary) (places : Nat) (keep : Bool := false) : String :=
  let (digits, exponent) := b.significant (places + 1)
  scientificForm digits exponent keep

/-- A value with `count` significant digits in the shorter of the two forms; trailing zeros and a
bare point are left out unless they are to be kept. -/
def Binary.general (b : Binary) (count : Nat) (keep : Bool := false) : String :=
  let (all, exponent) := b.significant count
  let digits := if keep then all else all.take 1 ++ stripZeros (all.drop 1)
  if exponent < -4 || (count : Int) ≤ exponent then scientificForm digits exponent keep
  else if exponent < 0 then
    String.ofList ('0' :: '.' :: List.replicate (-exponent - 1).toNat '0' ++ digits)
  else
    let whole := digits.take (exponent.toNat + 1)
    let padding := List.replicate (exponent.toNat + 1 - whole.length) '0'
    String.ofList (whole ++ padding ++ afterPoint keep (digits.drop (exponent.toNat + 1)))

/-- The double nearest to the number with the given digits and exponent. One that is far out of the
range of doubles is not computed. -/
def ofDigits (digits : List Char) (exponent : Int) : Float :=
  let significant := digits.dropWhile (· == '0')
  let magnitude := exponent + significant.length
  if significant.isEmpty || magnitude < -400 then 0.0
  else if 400 < magnitude then 1.0 / 0.0
  else Float.ofScientific (digitsValue significant) (exponent < 0) exponent.natAbs

def truncate? (x : Float) : Option Int :=
  match classify x with
  | .finite negative b =>
    let n : Int := b.value.num / b.value.den
    some (if negative then -n else n)
  | _ => none

def isIntegral (x : Float) : Bool :=
  match classify x with
  | .finite _ b => b.value.num % b.value.den == 0
  | _ => false

def ofInt (n : Int) : Float := if n < 0 then -(Float.ofNat n.natAbs) else Float.ofNat n.natAbs

end ChatEngine.Decimal
