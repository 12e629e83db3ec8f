import ChatEngine.Value

/-!
# Format strings

Format strings: text in which each directive, such as `%s`, `%05d` or `%.2f`, stands for one
argument. A directive is a percent sign, an optional key in parentheses, flags, a width, a
precision, a size letter without effect, and a conversion letter.
-/
namespace ChatEngine.Text

open Decimal

/-- Why a format string cannot be applied to its arguments. -/
inductive FormatError where
  | tooFewArguments
  | tooManyArguments
  | incomplete
  | incompleteKey
  | mappingRequired
  | missingKey (key : String)
  /-- A sequence has no keys. -/
  | keyOfSequence
  | unsupported (conversion : Char) (index : Nat)
  | integerRequired (conversion : Char) (typeName : String)
  | numberRequired (conversion : Char) (typeName : String)
  | realRequired (typeName : String)
  | characterRequired
  | characterRange
  | widthRequired
  | tooManyDigits
  | beyondFloats
  /-- An infinity has no integer part. -/
  | infinite
  /-- What is no number has no integer part. -/
  | notNumber
  | widthTooBig
  | precisionTooBig
  | precisionTooLarge
  /-- An argument is too large for a width, or for a precision. -/
  | sizeRange (precision : Bool)
  | outOfMemory

namespace FormatError

def message : FormatError → String
  | .tooFewArguments => "not enough arguments for format string"
  | .tooManyArguments => "not all arguments converted during string formatting"
  | .incomplete => "incomplete format"
  | .incompleteKey => "incomplete format key"
  | .mappingRequired => "format requires a mapping"
  | .missingKey key => key
  | .keyOfSequence => "list indices must be integers or slices, not str"
  | .unsupported c index =>
    let shown := if 31 ≤ c.toNat && c.toNat ≤ 126 then c else '?'
    s!"unsupported format character '{shown}' (0x" ++ digitsIn 16 c.toNat ++ s!") at index {index}"
  | .integerRequired c name => s!"%{c} format: an integer is required, not {name}"
  | .numberRequired c name => s!"%{c} format: a real number is required, not {name}"
  | .realRequired name => s!"must be real number, not {name}"
  | .characterRequired => "%c requires int or char"
  | .characterRange => "%c arg not in range(0x110000)"
  | .widthRequired => "* wants int"
  | .tooManyDigits => IntegerError.tooLarge.message
  | .beyondFloats => "int too large to convert to float"
  | .infinite => "cannot convert float infinity to integer"
  | .notNumber => "cannot convert float NaN to integer"
  | .widthTooBig => "width too big"
  | .precisionTooBig => "precision too big"
  | .precisionTooLarge => "precision too large"
  | .sizeRange precision =>
    "Python int too large to convert to C " ++ if precision then "int" else "ssize_t"
  | .outOfMemory => ""

end FormatError

/-- What a format string is applied to: values in order, or one value, whose parts have names if
it is a map. -/
inductive FormatArgs where
  | positional (values : List Value)
  | single (value : Value)

/-- The flags, width and precision of a directive. -/
structure Layout where
  left : Bool := false
  plus : Bool := false
  blank : Bool := false
  alternate : Bool := false
  zero : Bool := false
  width : Nat := 0
  precision : Option Nat := none

namespace Layout

def pad (l : Layout) (text : List Char) : List Char :=
  let fill := List.replicate (l.width - text.length) ' '
  if l.left then text ++ fill else fill ++ text

/-- Fills a number, given as its sign, its base mark and its digits, to the width: zeros stand
after the sign and the mark, blanks before them. -/
def padNumber (l : Layout) (negative : Bool) (mark digits : List Char) : List Char :=
  let sign := if negative then ['-'] else if l.plus then ['+'] else if l.blank then [' '] else []
  let lead := sign ++ mark
  let missing := l.width - (lead.length + digits.length)
  if l.left then lead ++ digits ++ List.replicate missing ' '
  else if l.zero then lead ++ List.replicate missing '0' ++ digits
  else List.replicate missing ' ' ++ lead ++ digits

def integer (l : Layout) (conversion : Char) (n : Int) : List Char :=
  let digits := match conversion with
    | 'o' => Nat.toDigits 8 n.natAbs
    | 'x' => Nat.toDigits 16 n.natAbs
    | 'X' => (Nat.toDigits 16 n.natAbs).map Char.toUpper
    | _ => Nat.toDigits 10 n.natAbs
  let digits := List.replicate (l.precision.getD 0 - digits.length) '0' ++ digits
  let mark := if l.alternate && (conversion == 'o' || conversion == 'x' || conversion == 'X')
    then ['0', conversion] else []
  l.padNumber (n < 0) mark digits

def real (l : Layout) (conversion : Char) (x : Float) : List Char :=
  let places := l.precision.getD 6
  let (negative, text) := match classify x with
    | .nan => (false, "nan")
    | .infinite negative => (negative, "inf")
    | .finite negative b => (negative, match conversion.toLower with
      | 'e' => b.scientific places l.alternate
      | 'f' => b.value.fixed places l.alternate
      | _ => b.general (max places 1) l.alternate)
  l.padNumber negative []
    (if conversion.isUpper then text.toList.map Char.toUpper else text.toList)

end Layout

/-- The text of a value on one line in ASCII: other characters by their code points. -/
def asciiQuoted (v : Value) : List Char :=
  v.quoted.toList.flatMap fun c =>
    if c.toNat < 0x80 then [c]
    else if c.toNat < 0x100 then '\\' :: 'x' :: hexText 2 c.toNat
    else if c.toNat < 0x10000 then '\\' :: 'u' :: hexText 4 c.toNat
    else '\\' :: 'U' :: hexText 8 c.toNat

/-- The largest precision there is; a decimal integer takes one of at most three less. -/
def maxPrecision : Nat := 2147483647

def maxWidth : Nat := 9223372036854775807

/-- The width from which on a text does not fit in memory. -/
def memoryWidth : Nat := 100000000000

/-- An integer in base ten, unless it is too long to be written. -/
def decimalInteger (l : Layout) (n : Int) : Except FormatError (List Char) :=
  if maxPrecision < l.precision.getD 0 + 3 then .error .precisionTooLarge
  else match writeInt n with
    | .ok _ => .ok (l.integer 'd' n)
    | .error _ => .error .tooManyDigits

def integerPart (x : Float) : Except FormatError Int :=
  match classify x, truncate? x with
  | .nan, _ => .error .notNumber
  | _, some n => .ok n
  | _, none => .error .infinite

/-- One argument converted as a directive says; `index` is where its letter stands. -/
def convert (l : Layout) (conversion : Char) (index : Nat) (v : Value) :
    Except FormatError (List Char) :=
  let cut (cs : List Char) := match l.precision with
    | some n => cs.take n
    | none => cs
  match conversion with
  | 's' => .ok (l.pad (cut v.text.toList))
  | 'r' => .ok (l.pad (cut v.quoted.toList))
  | 'a' => .ok (l.pad (cut (asciiQuoted v)))
  | 'c' => match v with
    | .str s => match s.toList with
      | [c] => .ok (l.pad [c])
      | _ => .error .characterRequired
    | .int n =>
      if 0 ≤ n && n < 0x110000 then .ok (l.pad [Char.ofNat n.toNat]) else .error .characterRange
    | .bool b => .ok (l.pad [if b then '\x01' else '\x00'])
    | _ => .error .characterRequired
  | 'd' | 'i' | 'u' => match v with
    | .int n => decimalInteger l n
    | .bool b => decimalInteger l (if b then 1 else 0)
    | .float x => do decimalInteger l (← integerPart x)
    | _ => .error (.numberRequired conversion v.typeName)
  | 'o' | 'x' | 'X' => match v with
    | .int n => .ok (l.integer conversion n)
    | .bool b => .ok (l.integer conversion (if b then 1 else 0))
    | _ => .error (.integerRequired conversion v.typeName)
  | 'e' | 'E' | 'f' | 'F' | 'g' | 'G' => match v with
    | .int n => match classify (ofInt n) with
      | .finite .. => .ok (l.real conversion (ofInt n))
      | _ => .error .beyondFloats
    | .bool b => .ok (l.real conversion (if b then 1.0 else 0.0))
    | .float x => .ok (l.real conversion x)
    | _ => .error (.realRequired v.typeName)
  | _ => .error (.unsupported conversion index)

/-- Where in a directive the reader is. -/
inductive FormatPhase where
  | literal
  | start
  | key (depth : Nat) (name : List Char)
  | flags
  | width
  | afterWidth
  | point
  | precision
  | afterPrecision
  | conversion

/-- The reader's state: the phase, the position, the directive so far, the arguments left, and
the characters written, last first. -/
structure FormatState where
  phase : FormatPhase := .literal
  index : Nat := 0
  layout : Layout := {}
  /-- Values still to convert, in order. -/
  pending : List Value
  /-- The map or sequence that keys are looked up in; with one, values may be left over. -/
  source : Option Value := none
  written : List Char := []

namespace FormatState

def next (s : FormatState) : Except FormatError (Value × FormatState) :=
  match s.pending with
  | v :: vs => .ok (v, { s with pending := vs })
  | [] => .error .tooFewArguments

def nextInt (s : FormatState) : Except FormatError (Int × FormatState) := do
  match ← s.next with
  | (.int n, s) => .ok (n, s)
  | (.bool b, s) => .ok (if b then 1 else 0, s)
  | _ => .error .widthRequired

def digit? (c : Char) : Option Nat := if c.isDigit then some (c.toNat - 48) else none

def finish (s : FormatState) (c : Char) : Except FormatError FormatState := do
  let (v, s) ← s.next
  if memoryWidth < s.layout.width then
    discard <| convert { s.layout with width := 0 } c s.index v
    throw .outOfMemory
  let text ← convert s.layout c s.index v
  return { s with phase := .literal, written := text.reverse ++ s.written }

/-- Reads a size letter, which has no effect, or the conversion letter. -/
def readSize (s : FormatState) (c : Char) : Except FormatError FormatState :=
  if c = 'h' || c = 'l' || c = 'L' then .ok { s with phase := .conversion } else s.finish c

def readPoint (s : FormatState) (c : Char) : Except FormatError FormatState :=
  if c = '.' then .ok { s with phase := .point, layout := { s.layout with precision := some 0 } }
  else s.readSize c

def readWidth (s : FormatState) (c : Char) : Except FormatError FormatState := do
  if c = '*' then
    let (n, s) ← s.nextInt
    if maxWidth < n || n < -maxWidth - 1 then throw (.sizeRange false)
    let width := if maxWidth < n.natAbs then 0 else n.natAbs
    return { s with phase := .afterWidth
                    layout := { s.layout with width, left := s.layout.left || n < 0 } }
  match digit? c with
  | some d => return { s with phase := .width, layout := { s.layout with width := d } }
  | none => s.readPoint c

def readFlag (s : FormatState) (c : Char) : Except FormatError FormatState :=
  let flagged (l : Layout) : Except FormatError FormatState :=
    .ok { s with phase := .flags, layout := l }
  match c with
  | '-' => flagged { s.layout with left := true }
  | '+' => flagged { s.layout with plus := true }
  | ' ' => flagged { s.layout with blank := true }
  | '#' => flagged { s.layout with alternate := true }
  | '0' => flagged { s.layout with zero := true }
  | _ => s.readWidth c

/-- Reads what follows a percent sign: another one, the key of a named argument, or a flag. -/
def readKey (s : FormatState) (c : Char) : Except FormatError FormatState :=
  if c = '%' then .ok { s with phase := .literal, written := '%' :: s.written }
  else if c = '(' then
    match s.source with
    | some _ => .ok { s with phase := .key 1 [] }
    | none => .error .mappingRequired
  else s.readFlag c

/-- Looks a key up; its value becomes the one argument of the directive. -/
def named (s : FormatState) (name : List Char) : Except FormatError FormatState :=
  let key := String.ofList name.reverse
  match s.source with
  | some (.map entries) => match entries.lookup key with
    | some v => .ok { s with phase := .flags, pending := [v] }
    | none => .error (.missingKey key)
  | _ => .error .keyOfSequence

def read (s : FormatState) (c : Char) : Except FormatError FormatState :=
  match s.phase with
  | .literal =>
    if c = '%' then .ok { s with phase := .start, layout := {} }
    else .ok { s with written := c :: s.written }
  | .start => s.readKey c
  | .key depth name =>
    if c = ')' && depth = 1 then s.named name
    else
      let depth := if c = '(' then depth + 1 else if c = ')' then depth - 1 else depth
      .ok { s with phase := .key depth (c :: name) }
  | .flags => s.readFlag c
  | .width => match digit? c with
    | some d =>
      let width := 10 * s.layout.width + d
      if maxWidth < width then .error .widthTooBig
      else .ok { s with layout := { s.layout with width } }
    | none => s.readPoint c
  | .afterWidth => s.readPoint c
  | .point =>
    if c = '*' then do
      let (n, s) ← s.nextInt
      if maxPrecision < n || n < -maxPrecision - 1 then throw (.sizeRange true)
      return { s with phase := .afterPrecision
                      layout := { s.layout with precision := some n.toNat } }
    else match digit? c with
      | some d =>
        .ok { s with phase := .precision, layout := { s.layout with precision := some d } }
      | none => s.readSize c
  | .precision => match digit? c with
    | some d =>
      let precision := 10 * s.layout.precision.getD 0 + d
      if maxPrecision < precision then .error .precisionTooBig
      else .ok { s with layout := { s.layout with precision := some precision } }
    | none => s.readSize c
  | .afterPrecision => s.readSize c
  | .conversion => s.finish c

end FormatState

/-- Applies a format string to its arguments; every positional argument has to be used. -/
def format (fmt : String) (args : FormatArgs) : Except FormatError String := do
  let start : FormatState := match args with
    | .positional values => { pending := values }
    | .single value =>
      { pending := [value]
        source := match value with
          | .map _ | .list _ => some value
          | _ => none }
  let s ← fmt.toList.foldlM
    (fun s c => (s.read c).map fun s => { s with index := s.index + 1 }) start
  match s.phase with
  | .literal => pure ()
  | .key .. => throw .incompleteKey
  | _ => throw .incomplete
  if s.source.isNone && !s.pending.isEmpty then throw .tooManyArguments
  return String.ofList s.written.reverse

end ChatEngine.Text
