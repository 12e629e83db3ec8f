import ChatEngine.Text.Char

/-!
# Cutting texts

Cutting texts: trimming, leading and trailing parts, splitting and searching.
-/
namespace ChatEngine.Text

def trimStart (cs : List Char) : List Char := cs.dropWhile isBlank

def trimEnd (cs : List Char) : List Char := (cs.reverse.dropWhile isBlank).reverse

def trimChars (cs : List Char) : List Char := trimEnd (trimStart cs)

def trim (s : String) : String := String.ofList (trimChars s.toList)

def dropLead? : (lead cs : List Char) → Option (List Char)
  | [], cs => some cs
  | _ :: _, [] => none
  | l :: ls, c :: cs => if l = c then dropLead? ls cs else none

theorem dropLead?_eq_some_iff {lead cs rest : List Char} :
    dropLead? lead cs = some rest ↔ cs = lead ++ rest := by
  induction lead generalizing cs with
  | nil => simp [dropLead?, eq_comm]
  | cons l ls ih =>
    cases cs with
    | nil => simp [dropLead?]
    | cons c cs => by_cases h : l = c <;> simp [dropLead?, h, ih, Ne.symm]

def dropStart? (lead s : String) : Option String :=
  (dropLead? lead.toList s.toList).map String.ofList

def dropTail? (tail s : String) : Option String :=
  (dropLead? tail.toList.reverse s.toList.reverse).map fun r => String.ofList r.reverse

def startsWith (s lead : String) : Bool := (dropStart? lead s).isSome

def endsWith (s tail : String) : Bool := (dropTail? tail s).isSome

def afterFirst? (part : List Char) : List Char → Option (List Char)
  | [] => if part.isEmpty then some [] else none
  | c :: cs => (dropLead? part (c :: cs)).or (afterFirst? part cs)

def contains (s part : String) : Bool := (afterFirst? part.toList s.toList).isSome

/-- The pieces between the separators, empty ones included. -/
def splitChars (separator : Char) : List Char → List (List Char)
  | [] => [[]]
  | c :: cs =>
    if c = separator then [] :: splitChars separator cs
    else match splitChars separator cs with
      | [] => [[c]]
      | piece :: pieces => (c :: piece) :: pieces

/-- The pieces of a text between the separators, empty ones included. -/
def split (separator : Char) (s : String) : List String :=
  (splitChars separator s.toList).map String.ofList

/-- Whether the character ends a line: a line feed or any of the others that do. -/
def isLineEnd (c : Char) : Bool :=
  (0xa ≤ c.toNat && c.toNat ≤ 0xd) || (0x1c ≤ c.toNat && c.toNat ≤ 0x1e) || c.toNat == 0x85
    || c.toNat == 0x2028 || c.toNat == 0x2029

/-- How many line ends there are; a carriage return and a line feed are one. -/
def countLineEnds : List Char → Nat
  | [] => 0
  | '\r' :: '\n' :: cs => countLineEnds cs + 1
  | c :: cs => countLineEnds cs + if isLineEnd c then 1 else 0

def take (n : Nat) (s : String) : String := String.ofList (s.toList.take n)

def drop (n : Nat) (s : String) : String := String.ofList (s.toList.drop n)

def takeLast (n : Nat) (s : String) : String :=
  String.ofList (s.toList.drop (s.toList.length - n))

def join (separator : String) (texts : List String) : String := separator.intercalate texts

end ChatEngine.Text
