import ChatEngine.Text.NameTable
import ChatEngine.Text.WordTable
import ChatEngine.Text.PrintableTable
import ChatEngine.Text.CaseTable

/-!
# Character classes

Character classes and case, for all of Unicode: blanks, word characters, decimal digits, visible
characters, and letters that are equal when case is ignored.
-/
namespace ChatEngine.Text

def inRanges (ranges : List (Nat × Nat)) (n : Nat) : Bool :=
  ranges.any fun (first, last) => first ≤ n && n ≤ last

/-- The code points trimmed from the ends of a text: blanks, line ends and the information
separators, but no zero-width character. -/
def blankRanges : List (Nat × Nat) :=
  [(0x9, 0xd), (0x1c, 0x20), (0x85, 0x85), (0xa0, 0xa0), (0x1680, 0x1680), (0x2000, 0x200a),
   (0x2028, 0x2029), (0x202f, 0x202f), (0x205f, 0x205f), (0x3000, 0x3000)]

def isBlank (c : Char) : Bool := inRanges blankRanges c.toNat

/-- Whether the character belongs to words: a letter or number of any script, or an underscore. -/
def isWord (c : Char) : Bool :=
  if c.toNat < 0x80 then c.isAlphanum || c == '_' else inRanges wordRanges c.toNat

def isNameStart (c : Char) : Bool :=
  if c.toNat < 0x80 then c.isAlpha || c == '_'
  else (isWord c && !inRanges unleadingRanges c.toNat) || inRanges leadingMarks c.toNat

def isNamePart (c : Char) : Bool :=
  if c.toNat < 0x80 then isWord c
  else (isWord c && !inRanges unnamedRanges c.toNat) || inRanges innerMarks c.toNat

/-- The zeros of the scripts that have decimal digits; nine digits follow each. -/
def decimalZeros : List Nat :=
  [0x30, 0x660, 0x6f0, 0x7c0, 0x966, 0x9e6, 0xa66, 0xae6, 0xb66, 0xbe6, 0xc66, 0xce6, 0xd66,
   0xde6, 0xe50, 0xed0, 0xf20, 0x1040, 0x1090, 0x17e0, 0x1810, 0x1946, 0x19d0, 0x1a80, 0x1a90,
   0x1b50, 0x1bb0, 0x1c40, 0x1c50, 0xa620, 0xa8d0, 0xa900, 0xa9d0, 0xa9f0, 0xaa50, 0xabf0,
   0xff10, 0x104a0, 0x10d30, 0x11066, 0x110f0, 0x11136, 0x111d0, 0x112f0, 0x11450, 0x114d0,
   0x11650, 0x116c0, 0x11730, 0x118e0, 0x11950, 0x11c50, 0x11d50, 0x11da0, 0x16a60, 0x16ac0,
   0x16b50, 0x1d7ce, 0x1d7d8, 0x1d7e2, 0x1d7ec, 0x1d7f6, 0x1e140, 0x1e2f0, 0x1e950, 0x1fbf0]

def digitValue? (c : Char) : Option Nat :=
  (decimalZeros.find? fun first => first ≤ c.toNat && c.toNat < first + 10).map (c.toNat - ·)

def isDigit (c : Char) : Bool := (digitValue? c).isSome

/-- Whether the character is shown as itself rather than by its code point. -/
def isPrintable (c : Char) : Bool :=
  if c.toNat < 0x80 then 0x20 ≤ c.toNat && c.toNat < 0x7f
  else !inRanges unprintableRanges c.toNat

def lowerChar (c : Char) : List Char :=
  if c.toNat < 0x80 then [c.toLower]
  else if c.toNat == 0x130 then ['i', Char.ofNat 0x307]
  else [((CaseRun.move? lowerRuns c.toNat).map Char.ofNat).getD c]

def upperChar (c : Char) : List Char :=
  if c.toNat < 0x80 then [c.toUpper]
  else match upperSequences.lookup c.toNat with
    | some ns => ns.map Char.ofNat
    | none => [((CaseRun.move? upperRuns c.toNat).map Char.ofNat).getD c]

def lower (s : String) : String := String.ofList (s.toList.flatMap lowerChar)

def upper (s : String) : String := String.ofList (s.toList.flatMap upperChar)

/-- Whether a character stands for a small ASCII letter when case is ignored; the dotless and the
dotted capital `i`, the long `s` and the Kelvin sign count as their letters. -/
def sameLetter (letter c : Char) : Bool :=
  c == letter || c == letter.toUpper
    || (letter == 'i' && (c.toNat == 0x130 || c.toNat == 0x131))
    || (letter == 's' && c.toNat == 0x17f)
    || (letter == 'k' && c.toNat == 0x212a)

def dropWord? : (word text : List Char) → Option (List Char)
  | [], rest => some rest
  | _ :: _, [] => none
  | w :: ws, c :: cs => if sameLetter w c then dropWord? ws cs else none

end ChatEngine.Text
