import ChatEngine.Text.Quoted

/-!
# Characters from bytes

Reading bytes as characters, of which each is one to four bytes. The first byte says how many there
are, and no character may be written longer than necessary.
-/
namespace ChatEngine.Text

/-- Why bytes are no text: the character that starts at a place, of which so many bytes were
looked at, is broken. -/
inductive Utf8Error where
  | badStart (byte place : Nat)
  | badContinuation (byte place count : Nat)
  | tooShort (byte place count : Nat)
  deriving DecidableEq, Repr

namespace Utf8Error

/-- Where an error is: one byte is shown, of more only the places. -/
def position (byte place count : Nat) : String :=
  if count = 1 then "byte 0x" ++ String.ofList (hexText 2 byte) ++ s!" in position {place}"
  else s!"bytes in position {place}-{place + count - 1}"

def message : Utf8Error → String
  | badStart byte place =>
    "'utf-8' codec can't decode " ++ position byte place 1 ++ ": invalid start byte"
  | badContinuation byte place count =>
    "'utf-8' codec can't decode " ++ position byte place count ++ ": invalid continuation byte"
  | tooShort byte place count =>
    "'utf-8' codec can't decode " ++ position byte place count ++ ": unexpected end of data"

end Utf8Error

/-- How many bytes follow a first byte, and the bits of the character that it holds. -/
def firstByte? (byte : Nat) : Option (Nat × Nat) :=
  if byte < 0x80 then some (0, byte)
  else if byte < 0xc2 then none
  else if byte < 0xe0 then some (1, byte - 0xc0)
  else if byte < 0xf0 then some (2, byte - 0xe0)
  else if byte < 0xf5 then some (3, byte - 0xf0)
  else none

def secondRange (first : Nat) : Nat × Nat :=
  if first = 0xe0 then (0xa0, 0xbf)
  else if first = 0xed then (0x80, 0x9f)
  else if first = 0xf0 then (0x90, 0xbf)
  else if first = 0xf4 then (0x80, 0x8f)
  else (0x80, 0xbf)

/-- Reads the bytes that follow a first one, at `place`; `count` have been read. -/
def readFollowing (first place : Nat) :
    (left count bits : Nat) → List Nat → Except Utf8Error (Nat × List Nat)
  | 0, _, bits, rest => .ok (bits, rest)
  | _ + 1, count, _, [] => .error (.tooShort first place count)
  | left + 1, count, bits, byte :: rest =>
    let (low, high) := if count = 1 then secondRange first else (0x80, 0xbf)
    if low ≤ byte && byte ≤ high then
      readFollowing first place left (count + 1) (64 * bits + (byte - 0x80)) rest
    else .error (.badContinuation first place count)

def readUtf8 : (fuel place : Nat) → List Nat → Except Utf8Error (List Char)
  | 0, _, _ | _, _, [] => .ok []
  | fuel + 1, place, byte :: rest => do
    let some (following, bits) := firstByte? byte | throw (.badStart byte place)
    let (code, rest) ← readFollowing byte place following 1 bits rest
    return Char.ofNat code :: (← readUtf8 fuel (place + following + 1) rest)

def ofUtf8 (bytes : List Nat) : Except Utf8Error (List Char) := readUtf8 bytes.length 0 bytes

end ChatEngine.Text
