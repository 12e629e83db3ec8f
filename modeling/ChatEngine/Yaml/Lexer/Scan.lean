import ChatEngine.Text.Utf8
import ChatEngine.Yaml.Error
import ChatEngine.Yaml.Token

/-!
# Scanning YAML texts

Scanners: they move a cursor over a text and give what they found there, or an error. Here are the
steps that all of them are made of, and the scanners of names, tags and directives.
-/
namespace ChatEngine.Yaml

abbrev Scan := StateT Cursor (Except Error)

namespace Scan

def peek : Scan Char := return (← get).peek

def peekAt (n : Nat) : Scan Char := return (← get).peekAt n

def skip (n : Nat) : Scan Unit := modify (·.advance n)

def takeWhile (p : Char → Bool) : Scan (List Char) := do
  let taken := (← get).rest.takeWhile p
  skip taken.length
  return taken

def take (n : Nat) : Scan (List Char) := do
  let taken := (← get).rest.take n
  skip n
  return taken

/-- Moves over a line break, if there is one, and gives the text of it: a line feed for most. -/
def lineBreak : Scan (List Char) := do
  let c ← peek
  if !isBreak c then return []
  skip (if c == '\r' && (← peekAt 1) == '\n' then 2 else 1)
  return [if c == '\u2028' || c == '\u2029' then c else '\n']

/-- A bound for the steps of a scanner, each of which moves on. -/
def bound : Scan Nat := return (← get).left + 1

/-- The rest of the text is a document marker: three dashes or points, and a gap. -/
def isMarker (c : Cursor) : Bool :=
  (c.rest.take 3 == ['-', '-', '-'] || c.rest.take 3 == ['.', '.', '.']) && isGap (c.peekAt 3)

def fail {α : Type} (context : Context) (start : Cursor) (problem : Problem) : Scan α := do
  throw (.within context (some start) problem (← get))

/-- Fails because the character at the cursor is none of the expected ones. -/
def unexpected {α : Type} (context : Context) (start : Cursor) (wanted : String) : Scan α := do
  fail context start (.unexpected wanted (← peek))

def ignoredLine (context : Context) (start : Cursor) : Scan Unit := do
  discard (takeWhile (· == ' '))
  if (← peek) == '#' then discard (takeWhile (!isEnd ·))
  if !isEnd (← peek) then unexpected context start "a comment or a line break"
  discard lineBreak

def isNameChar (c : Char) : Bool := c.isAlphanum || c == '-' || c == '_'

def name (context : Context) (start : Cursor) (ends : Char → Bool) : Scan String := do
  let wanted := "alphabetic or numeric character"
  let taken ← takeWhile isNameChar
  if taken.isEmpty || !ends (← peek) then unexpected context start wanted
  return String.ofList taken

def endsAnchor (c : Char) : Bool :=
  isGap c || ['?', ':', ',', ']', '\x7d', '%', '@', '\u0060'].contains c

def anchor (context : Context) (kind : String → TokenKind) : Scan Token := do
  let start ← get
  skip 1
  let name ← name context start endsAnchor
  return ⟨kind name, start, ← get⟩

def isUriChar (c : Char) : Bool := c.isAlphanum || "-;/?:@&=+$,_.!~*'()[]".toList.contains c

def isHexDigit (c : Char) : Bool := (Text.hexValue? c).isSome

def checkHexDigits (context : Context) (start : Cursor) (wanted : String) :
    (count : Nat) → (place : Nat) → Scan Unit
  | 0, _ => return ()
  | count + 1, place => do
    let c ← peekAt place
    if !isHexDigit c then fail context start (.unexpected wanted c)
    checkHexDigits context start wanted count (place + 1)

def escapedBytes (context : Context) (start : Cursor) : (fuel : Nat) → Scan (List Nat)
  | 0 => return []
  | fuel + 1 => do
    if (← peek) != '%' then return []
    skip 1
    checkHexDigits context start "URI escape sequence of 2 hexadecimal numbers" 2 0
    let byte := (Text.hexNumber? (← take 2)).getD 0
    return byte :: (← escapedBytes context start fuel)

def uriPieces (context : Context) (start : Cursor) : (fuel : Nat) → Scan (List Char)
  | 0 => return []
  | fuel + 1 => do
    let taken ← takeWhile isUriChar
    if (← peek) != '%' then return taken
    let place ← get
    let bytes ← escapedBytes context start (← bound)
    match Text.ofUtf8 bytes with
    | .ok decoded => return taken ++ decoded ++ (← uriPieces context start fuel)
    | .error e => throw (.within context (some start) (.notUtf8 e.message) place)

def uri (context missing : Context) (start : Cursor) : Scan String := do
  let pieces ← uriPieces context start (← bound)
  if pieces.isEmpty then unexpected missing start "URI"
  return String.ofList pieces

/-- Scans the handle of a tag: an exclamation mark, or a name between two. -/
def handle (context : Context) (start : Cursor) : Scan String := do
  if (← peek) != '!' then unexpected context start "'!'"
  if (← peekAt 1) == ' ' then
    skip 1
    return "!"
  let name := ((← get).rest.drop 1).takeWhile isNameChar
  if (← peekAt (name.length + 1)) != '!' then
    skip (name.length + 1)
    unexpected context start "'!'"
  return String.ofList (← take (name.length + 2))

/-- Whether a tag has a handle of its own: a second exclamation mark before the next space. -/
def hasHandle (c : Cursor) : Bool :=
  ((c.rest.drop 1).takeWhile (!isSpaceOrEnd ·)).contains '!'

def tag : Scan Token := do
  let start ← get
  let c ← peekAt 1
  let (handle, suffix) ←
    if c == '<' then do
      skip 2
      let suffix ← uri .tag .tagUri start
      if (← peek) != '>' then unexpected .tagUri start "'>'"
      skip 1
      pure (none, suffix)
    else if isGap c then do
      skip 1
      pure (none, "!")
    else do
      let handle ←
        if hasHandle start then handle .tag start
        else do
          skip 1
          pure "!"
      let suffix ← uri .tag .tagUri start
      pure (some handle, suffix)
  if !isSpaceOrEnd (← peek) then unexpected .tag start "' '"
  return ⟨.tag handle suffix, start, ← get⟩

def versionNumber (start : Cursor) : Scan Nat := do
  if !(← peek).isDigit then unexpected .directive start "a digit"
  let digits := String.ofList (← takeWhile Char.isDigit)
  match Decimal.readInt digits with
  | .ok n => return n.toNat
  | .error e => throw (.scalar (.integer e))

def version (start : Cursor) : Scan Directive := do
  discard (takeWhile (· == ' '))
  let major ← versionNumber start
  if (← peek) != '.' then unexpected .directive start "a digit or '.'"
  skip 1
  let minor ← versionNumber start
  if !isSpaceOrEnd (← peek) then unexpected .directive start "a digit or ' '"
  return .version major minor

def tagExpansion (start : Cursor) : Scan Directive := do
  discard (takeWhile (· == ' '))
  let handle ← handle .directive start
  if (← peek) != ' ' then unexpected .directive start "' '"
  discard (takeWhile (· == ' '))
  let expansion ← uri .directive .directiveUri start
  if !isSpaceOrEnd (← peek) then unexpected .directive start "' '"
  return .tag handle expansion

def directive : Scan Token := do
  let start ← get
  skip 1
  let name ← name .directive start isSpaceOrEnd
  let (directive, stop) ←
    if name == "YAML" then pure (← version start, ← get)
    else if name == "TAG" then pure (← tagExpansion start, ← get)
    else do
      let stop ← get
      discard (takeWhile (!isEnd ·))
      pure (Directive.other name, stop)
  ignoredLine .directive start
  return ⟨.directive directive, start, stop⟩

end Scan

end ChatEngine.Yaml
