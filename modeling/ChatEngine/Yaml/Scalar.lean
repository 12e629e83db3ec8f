import ChatEngine.Decimal.Shortest
import ChatEngine.Yaml.Error

/-!
# The forms of YAML scalars

What plain scalars denote by their form: null, a truth value, an integer, a float or a moment. The
form is checked first; a scalar of a form may still denote nothing, like a date in a thirteenth
month.
-/
namespace ChatEngine.Yaml

/-! ## Words -/

def nullWords : List String := ["", "~", "null", "Null", "NULL"]

def trueWords : List String := ["yes", "true", "on"]

def falseWords : List String := ["no", "false", "off"]

/-- The three ways to write a word: in small letters, with a capital, in capitals. -/
def casings (word : String) : List String :=
  let capital := match word.toList with
    | c :: cs => String.ofList (c.toUpper :: cs)
    | [] => word
  [word, capital, String.ofList (word.toList.map Char.toUpper)]

def truthOfWord? (word : String) : Option Bool :=
  if (trueWords.flatMap casings).contains word then some true
  else if (falseWords.flatMap casings).contains word then some false
  else none

/-! ## Numbers -/

def signed (cs : List Char) : Bool × List Char :=
  match cs with
  | '-' :: rest => (true, rest)
  | '+' :: rest => (false, rest)
  | _ => (false, cs)

def isDigitIn (base : Nat) (c : Char) : Bool :=
  c == '_' || ((Text.hexValue? c).map fun d => decide (d < base)).getD false

def isWhole (cs : List Char) : Bool :=
  (cs.head?.map Char.isDigit).getD false && cs.all (isDigitIn 10)

/-- Whether characters are a number below sixty, of one or two digits. -/
def isSixty (part : List Char) : Bool :=
  match part with
  | [d] => d.isDigit
  | [t, d] => '0' ≤ t && t ≤ '5' && d.isDigit
  | _ => false

def sixties (cs : List Char) : List (List Char) := Text.splitChars ':' cs

/-- Whether characters are an integer: binary, hexadecimal, octal after a zero, decimal, or in
parts of sixty. -/
def isInteger (cs : List Char) : Bool :=
  match (signed cs).2 with
  | '0' :: 'b' :: ds => !ds.isEmpty && ds.all (isDigitIn 2)
  | '0' :: 'x' :: ds => !ds.isEmpty && ds.all (isDigitIn 16)
  | '0' :: ds => ds.all (isDigitIn 8)
  | ds => match sixties ds with
    | [] => false
    | first :: more => isWhole first && more.all isSixty

/-- The parts of a float: what is before its point, what is after it, and the exponent after
that. -/
def floatParts? (cs : List Char) : Option (List Char × List Char × List Char) :=
  match cs.dropWhile (· ≠ '.') with
  | '.' :: rest =>
    some (cs.takeWhile (· ≠ '.'), rest.takeWhile (isDigitIn 10), rest.dropWhile (isDigitIn 10))
  | _ => none

/-- Whether characters are an exponent: a letter, a sign and digits. -/
def isExponent (cs : List Char) : Bool :=
  match cs with
  | e :: sign :: ds =>
    (e == 'e' || e == 'E') && (sign == '+' || sign == '-') && !ds.isEmpty && ds.all Char.isDigit
  | _ => false

def infinityWords : List String := [".inf", ".Inf", ".INF"]

def notNumberWords : List String := [".nan", ".NaN", ".NAN"]

/-- Whether characters are a float: with a point, in parts of sixty with a point, an infinity, or
no number. Without digits before the point there must be one after it, and no sign. -/
def isFloat (cs : List Char) : Bool :=
  let (_, body) := signed cs
  infinityWords.contains (String.ofList body) || notNumberWords.contains (String.ofList cs)
    || match floatParts? body with
      | none => false
      | some (whole, fraction, exponent) => match sixties whole with
        | [] => false
        | [[]] => body.length = cs.length && isWhole fraction
            && (exponent.isEmpty || isExponent exponent)
        | [whole] => isWhole whole && (exponent.isEmpty || isExponent exponent)
        | first :: more => isWhole first && more.all isSixty && exponent.isEmpty

/-- Reads digits of a base, of which there must be one. -/
def readDigits (base : Nat) (digits : List Char) : Except ScalarError Nat :=
  if digits.isEmpty then .error (.noDigits base)
  else .ok (digits.foldl (fun n c => base * n + (Text.hexValue? c).getD 0) 0)

def readDecimal (digits : List Char) : Except ScalarError Nat :=
  match Decimal.readInt (String.ofList digits) with
  | .ok n => .ok n.toNat
  | .error e => .error (.integer e)

def readNatural (cs : List Char) : Except ScalarError Nat :=
  match cs with
  | ['0'] => .ok 0
  | '0' :: 'b' :: ds => readDigits 2 ds
  | '0' :: 'x' :: ds => readDigits 16 ds
  | '0' :: ds => readDigits 8 ds
  | _ => do
    let parts ← (sixties cs).mapM readDecimal
    return parts.foldl (fun n part => 60 * n + part) 0

def readInteger (cs : List Char) : Except ScalarError Int := do
  let (negative, body) := signed (cs.filter (· ≠ '_'))
  if body.isEmpty then throw .empty
  let n ← readNatural body
  return if negative then -(n : Int) else n

/-- The float that digits with a point and an exponent denote, underscores left out. -/
def floatOfParts (whole fraction exponent : List Char) : Float :=
  let e : Int := match exponent with
    | _ :: '-' :: ds => -(Decimal.digitsValue ds : Int)
    | _ :: _ :: ds => Decimal.digitsValue ds
    | _ => 0
  let kept := fraction.filter (· ≠ '_')
  Decimal.ofDigits (whole.filter (· ≠ '_') ++ kept) (e - kept.length)

/-- The float that parts of sixty denote, the last first. -/
def floatOfSixties : (base : Float) → List Float → Float → Float
  | _, [], sum => sum
  | base, part :: parts, sum => floatOfSixties (base * 60) parts (sum + part * base)

def readFloat (cs : List Char) : Except ScalarError Float :=
  let (negative, body) := signed cs
  let signedFloat (x : Float) : Except ScalarError Float := .ok (if negative then -x else x)
  if !isFloat cs then .error (.notFloat (String.ofList cs))
  else if notNumberWords.contains (String.ofList cs) then .ok (0.0 / 0.0)
  else match floatParts? body with
    | some (whole, fraction, exponent) =>
      if infinityWords.contains (String.ofList body) then signedFloat (1.0 / 0.0)
      else match (sixties whole).reverse with
        | last :: earlier =>
          let parts := floatOfParts last fraction exponent
            :: earlier.map fun part => floatOfParts part [] []
          signedFloat (floatOfSixties 1.0 parts 0.0)
        | [] => .error (.notFloat (String.ofList cs))
    | none => .error (.notFloat (String.ofList cs))

/-! ## Moments -/

/-- Leading digits, at most two. -/
def upToTwo (cs : List Char) : List Char × List Char :=
  let digits := (cs.take 2).takeWhile Char.isDigit
  (digits, cs.drop digits.length)

def after? (c : Char) (cs : List Char) : Option (List Char) :=
  if cs.head? = some c then some (cs.drop 1) else none

/-- The distance from universal time at the end of a moment, in minutes. -/
def readOffset? (cs : List Char) : Option (Option Int) :=
  match cs.dropWhile isBlank with
  | [] => if cs.isEmpty then some none else none
  | ['Z'] => some (some 0)
  | sign :: rest =>
    let (hours, rest) := upToTwo rest
    let minutes? : Option (List Char) := match rest with
      | [] => some []
      | [':', a, b] => if a.isDigit && b.isDigit then some [a, b] else none
      | _ => none
    if (sign == '+' || sign == '-') && !hours.isEmpty then
      minutes?.map fun minutes =>
        let size : Int := 60 * Decimal.digitsValue hours + Decimal.digitsValue minutes
        some (if sign == '-' then -size else size)
    else none

def readTime? (cs : List Char) : Option (Calendar.TimeOfDay × Option Int) := do
  let rest ← match cs with
    | 'T' :: rest | 't' :: rest => some rest
    | c :: rest => if isBlank c then some (rest.dropWhile isBlank) else none
    | [] => none
  let (hour, rest) := upToTwo rest
  let (minute, rest) := upToTwo (← after? ':' rest)
  let (second, rest) := upToTwo (← after? ':' rest)
  if hour.isEmpty || minute.length ≠ 2 || second.length ≠ 2 then none
  let (fraction, rest) := match rest with
    | '.' :: rest => rest.span Char.isDigit
    | _ => ([], rest)
  let micro := fraction.take 6 ++ List.replicate (6 - fraction.length) '0'
  let value := Decimal.digitsValue
  return (⟨value hour, value minute, value second, value micro⟩, ← readOffset? rest)

/-- The numbers of a moment as written. -/
structure MomentText where
  year : Nat
  month : Nat
  day : Nat
  time : Option (Calendar.TimeOfDay × Option Int)
  deriving DecidableEq, Repr

/-- Reads the numbers of a moment: a date with two digits for the month and for the day, or a date
with a time. -/
def readMoment? (cs : List Char) : Option MomentText := do
  let (year, rest) := (cs.take 4, cs.drop 4)
  let (month, rest) := upToTwo (← after? '-' rest)
  let (day, rest) := upToTwo (← after? '-' rest)
  if year.length ≠ 4 || !year.all Char.isDigit || month.isEmpty || day.isEmpty then none
  let value := Decimal.digitsValue
  if rest.isEmpty then
    if month.length = 2 && day.length = 2 then
      some ⟨value year, value month, value day, none⟩
    else none
  else return ⟨value year, value month, value day, some (← readTime? rest)⟩

def isTimestamp (cs : List Char) : Bool := (readMoment? cs).isSome

/-- The moment of the numbers; its distance from universal time is checked first. -/
def MomentText.moment (t : MomentText) : Except Calendar.MomentError Calendar.Moment := do
  match t.time with
  | none => return .day (← Calendar.Date.of t.year t.month t.day)
  | some (time, offset) =>
    if let some minutes := offset then
      if 1440 ≤ minutes.natAbs then throw (.offset minutes)
    let date ← Calendar.Date.of t.year t.month t.day
    time.check
    return .time date time offset

def readMoment (cs : List Char) : Except ScalarError Calendar.Moment :=
  match readMoment? cs with
  | some t => t.moment.mapError .moment
  | none => .error .notMoment

end ChatEngine.Yaml
