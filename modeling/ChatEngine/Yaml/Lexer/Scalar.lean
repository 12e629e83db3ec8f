import ChatEngine.Yaml.Lexer.Scan

/-!
# Scanning YAML scalars

Scanners of scalars: quoted ones, those in blocks of indented lines, and plain ones. In quoted and
plain scalars a single line break reads as a space, and of more than one the first is left out.
-/
namespace ChatEngine.Yaml.Scan

/-- The text of line breaks inside a scalar that goes on: `first` is the break that ended the line,
and `others` are those of the empty lines after it. -/
def foldedBreaks (first others : List Char) : List Char :=
  if first ≠ ['\n'] then first ++ others else if others.isEmpty then [' '] else others

/-! ## Quoted scalars -/

def unescape? : Char → Option Char
  | '0' => some '\x00'
  | 'a' => some '\x07'
  | 'b' => some '\x08'
  | 't' => some '\t'
  | '\t' => some '\t'
  | 'n' => some '\n'
  | 'v' => some '\x0b'
  | 'f' => some '\x0c'
  | 'r' => some '\r'
  | 'e' => some '\x1b'
  | ' ' => some ' '
  | '"' => some '"'
  | '\\' => some '\\'
  | '/' => some '/'
  | 'N' => some '\u0085'
  | '_' => some '\u00a0'
  | 'L' => some '\u2028'
  | 'P' => some '\u2029'
  | _ => none

def codeLength? : Char → Option Nat
  | 'x' => some 2
  | 'u' => some 4
  | 'U' => some 8
  | _ => none

def quotedBreaks (start : Cursor) : (fuel : Nat) → Scan (List Char)
  | 0 => return []
  | fuel + 1 => do
    if isMarker (← get) then fail .quoted start .documentSeparator
    discard (takeWhile isBlank)
    if isBreak (← peek) then
      let taken ← lineBreak
      return taken ++ (← quotedBreaks start fuel)
    else return []

def charOfCode (code : Nat) : Except Error Char :=
  if code < 0x110000 then .ok (if code.isValidChar then Char.ofNat code else '\ufffd')
  else .error (.scalar (if code < Nat.pow 2 31 then .noCharacter else .codeTooLarge))

def escape (start : Cursor) : Scan (List Char) := do
  let c ← peek
  if let some x := unescape? c then
    skip 1
    return [x]
  if let some count := codeLength? c then
    skip 1
    checkHexDigits .doubleQuoted start
      s!"escape sequence of {count} hexadecimal numbers" count 0
    let x ← charOfCode ((Text.hexNumber? ((← get).rest.take count)).getD 0)
    skip count
    return [x]
  if isBreak c then
    discard lineBreak
    return ← quotedBreaks start (← bound)
  fail .doubleQuoted start (.unknownEscape c)

def quotedWord (double : Bool) (start : Cursor) : (fuel : Nat) → Scan (List Char)
  | 0 => return []
  | fuel + 1 => do
    let taken ← takeWhile fun c => !isGap c && c != '\'' && c != '"' && c != '\\'
    let c ← peek
    if !double && c == '\'' && (← peekAt 1) == '\'' then
      skip 2
      return taken ++ '\'' :: (← quotedWord double start fuel)
    else if (double && c == '\'') || (!double && (c == '"' || c == '\\')) then
      skip 1
      return taken ++ c :: (← quotedWord double start fuel)
    else if double && c == '\\' then
      skip 1
      let escaped ← escape start
      return taken ++ escaped ++ (← quotedWord double start fuel)
    else return taken

def quotedSpaces (start : Cursor) : Scan (List Char) := do
  let blanks ← takeWhile isBlank
  let c ← peek
  if c == '\x00' then fail .quoted start .endOfStream
  if isBreak c then
    let first ← lineBreak
    return foldedBreaks first (← quotedBreaks start (← bound))
  else return blanks

def quotedWords (double : Bool) (start : Cursor) : (fuel : Nat) → Scan (List Char)
  | 0 => return []
  | fuel + 1 => do
    let word ← quotedWord double start (← bound)
    if (← peek) == (if double then '"' else '\'') then return word
    let spaces ← quotedSpaces start
    return word ++ spaces ++ (← quotedWords double start fuel)

def quoted (double : Bool) : Scan Token := do
  let start ← get
  skip 1
  let text ← quotedWords double start (← bound)
  skip 1
  return ⟨.scalar (String.ofList text) false, start, ← get⟩

/-! ## Blocks of lines -/

/-- What becomes of the line breaks at the end of a block. -/
inductive Chomping where
  /-- One is kept. -/
  | clip
  /-- None is kept. -/
  | strip
  /-- All are kept. -/
  | keep
  deriving DecidableEq, Repr

def chomping? : Char → Option Chomping
  | '+' => some .keep
  | '-' => some .strip
  | _ => none

def blockChomping : Scan (Option Chomping) := do
  let sign := chomping? (← peek)
  if sign.isSome then skip 1
  return sign

def blockIncrement (start : Cursor) : Scan (Option Nat) := do
  let c ← peek
  if !c.isDigit then return none
  if c == '0' then fail .blockScalar start .zeroIndentation
  skip 1
  return some (c.toNat - 48)

/-- Scans the signs after the mark of a block, which may come in either order. -/
def blockSigns (start : Cursor) : Scan (Chomping × Option Nat) := do
  let first ← blockChomping
  let increment ← blockIncrement start
  let second ← if first.isNone && increment.isSome then blockChomping else pure none
  if !isSpaceOrEnd (← peek) then
    unexpected .blockScalar start "chomping or indentation indicators"
  return ((first.or second).getD .clip, increment)

def indentTo (column : Nat) : (fuel : Nat) → Scan Unit
  | 0 => return ()
  | fuel + 1 => do
    if (← get).column < column && (← peek) == ' ' then
      skip 1
      indentTo column fuel

/-- The line breaks before the first line of a block, and the widest indentation among its empty
lines. -/
def leadingBreaks : (fuel widest : Nat) → Scan (List Char × Nat)
  | 0, widest => return ([], widest)
  | fuel + 1, widest => do
    let c ← peek
    if c == ' ' then
      skip 1
      leadingBreaks fuel (max widest (← get).column)
    else if isBreak c then
      let taken ← lineBreak
      let (others, widest) ← leadingBreaks fuel widest
      return (taken ++ others, widest)
    else return ([], widest)

/-- The line breaks before the next line of a block with a known indentation, and the place behind
them. -/
def blockBreaks (indent : Nat) : (fuel : Nat) → Scan (List Char × Cursor)
  | 0 => return ([], ← get)
  | fuel + 1 => do
    let place ← get
    indentTo indent (← bound)
    if isBreak (← peek) then
      let taken ← lineBreak
      let (others, place) ← blockBreaks indent fuel
      return (taken ++ others, place)
    else return ([], place)

/-- What is found of a block: its text without the breaks at the end, the break after the last
line, the breaks of the empty lines after it, and where it ends. -/
structure BlockText where
  text : List Char
  last : List Char
  breaks : List Char
  stop : Cursor

def atBlockLine (indent : Nat) : Scan Bool := do
  return (← get).column == indent && (← peek) != '\x00'

/-- The lines of a block; `breaks` are those of the empty lines before. In a folded block the break
between two lines that start with no blank is a space. -/
def blockLines (folded : Bool) (indent : Nat) :
    (fuel : Nat) → (breaks : List Char) → (stop : Cursor) → Scan BlockText
  | 0, breaks, stop => return ⟨[], [], breaks, stop⟩
  | fuel + 1, breaks, stop => do
    if !(← atBlockLine indent) then return ⟨[], [], breaks, stop⟩
    let flush := !isBlank (← peek)
    let line ← takeWhile (!isEnd ·)
    let last ← lineBreak
    let (more, stop) ← blockBreaks indent (← bound)
    if !(← atBlockLine indent) then return ⟨breaks ++ line, last, more, stop⟩
    let between :=
      if folded && last == ['\n'] && flush && !isBlank (← peek) then
        if more.isEmpty then [' '] else []
      else last
    let rest ← blockLines folded indent fuel more stop
    return { rest with text := breaks ++ line ++ between ++ rest.text }

def block (folded : Bool) (outer : Int) : Scan Token := do
  let start ← get
  skip 1
  let (chomping, increment) ← blockSigns start
  ignoredLine .blockScalar start
  let least := (outer + 1).toNat.max 1
  let (indent, breaks, stop) ← match increment with
    | some n => do
      let (breaks, stop) ← blockBreaks (least + n - 1) (← bound)
      pure (least + n - 1, breaks, stop)
    | none => do
      let (breaks, widest) ← leadingBreaks (← bound) 0
      pure (max least widest, breaks, ← get)
  let found ← blockLines folded indent (← bound) breaks stop
  let text := found.text ++ match chomping with
    | .strip => []
    | .clip => found.last
    | .keep => found.last ++ found.breaks
  return ⟨.scalar (String.ofList text) false, start, found.stop⟩

/-! ## Plain scalars -/

/-- Whether a character has a meaning of its own inside brackets. -/
def isFlowMark (c : Char) : Bool := [',', '[', ']', '\x7b', '\x7d'].contains c

/-- The characters of a plain scalar up to a blank, a line break, or a colon or mark that does not
belong to it. -/
def plainWord (inFlow : Bool) : List Char → List Char
  | [] => []
  | c :: cs =>
    let next := cs.headD '\x00'
    if isGap c || (c == ':' && (isGap next || (inFlow && isFlowMark next)))
      || (inFlow && (c == '?' || isFlowMark c)) then []
    else c :: plainWord inFlow cs

/-- Moves over spaces and line breaks, and gives the text of the breaks; nothing if a document
marker follows one of them. -/
def plainBreaks : (fuel : Nat) → Scan (Option (List Char))
  | 0 => return some []
  | fuel + 1 => do
    let c ← peek
    if c == ' ' then
      skip 1
      plainBreaks fuel
    else if isBreak c then
      let taken ← lineBreak
      if isMarker (← get) then return none
      return (← plainBreaks fuel).map (taken ++ ·)
    else return some []

/-- What is between two words of a plain scalar, and whether a line has ended there. Nothing means
that the scalar ends. -/
def plainSpaces : Scan (List Char × Bool) := do
  let spaces ← takeWhile (· == ' ')
  if !isBreak (← peek) then return (spaces, false)
  let first ← lineBreak
  if isMarker (← get) then return ([], true)
  match ← plainBreaks (← bound) with
  | some others => return (foldedBreaks first others, true)
  | none => return ([], true)

/-- The rest of a plain scalar as found: its text, its end, and whether a line has ended behind
it. -/
structure PlainText where
  text : List Char := []
  stop : Cursor
  lineEnded : Bool := false

/-- The words of a plain scalar after `spaces`, in a block of the given indentation or inside
brackets; `found` is what there is without them. -/
def plainWords (inFlow : Bool) (indent : Int) :
    (fuel : Nat) → (spaces : List Char) → (found : PlainText) → Scan PlainText
  | 0, _, found => return found
  | fuel + 1, spaces, found => do
    if (← peek) == '#' then return found
    let word := plainWord inFlow (← get).rest
    if word.isEmpty then return found
    skip word.length
    let stop ← get
    let (more, lineEnded) ← plainSpaces
    let found : PlainText := { stop, lineEnded }
    let rest ←
      if more.isEmpty || (!inFlow && (← get).column < indent) then pure found
      else plainWords inFlow indent fuel more found
    return { rest with text := spaces ++ word ++ rest.text }

/-- Scans a plain scalar inside a block of the given indentation or inside brackets; whether a line
has ended behind it comes with it. -/
def plain (inFlow : Bool) (outer : Int) : Scan (Token × Bool) := do
  let start ← get
  let found ← plainWords inFlow (outer + 1) (← bound) [] { stop := start }
  return (⟨.scalar (String.ofList found.text) true, start, found.stop⟩, found.lineEnded)

end ChatEngine.Yaml.Scan
