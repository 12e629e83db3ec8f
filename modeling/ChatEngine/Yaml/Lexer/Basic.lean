import ChatEngine.Entries
import ChatEngine.Yaml.Lexer.Scalar

/-!
# The YAML lexer

From text to tokens. The lexer keeps track of the indentation of the blocks around its place and of
the tokens that may turn out to be keys: whether one is a key is known only at the colon after it,
and then the token for the key is put in front of it. So tokens wait in a queue until it is known
that nothing will be put in front of them.
-/
namespace ChatEngine.Yaml

/-- A token that is a key if a colon follows it in its line. -/
structure PossibleKey where
  number : Nat
  /-- Whether it must be a key, being where the entries of a block start. -/
  required : Bool
  place : Cursor
  deriving DecidableEq, Repr

/-- The state of a lexer. -/
structure Lexer where
  cursor : Cursor
  /-- The tokens that have been found and not been taken. -/
  queue : List Token := []
  taken : Nat := 0
  finished : Bool := false
  depth : Nat := 0
  /-- The column of the block around the place; -1 outside all blocks. -/
  indent : Int := -1
  /-- The columns of the blocks around that one, innermost first. -/
  outer : List Int := []
  keyAllowed : Bool := true
  /-- The possible keys by how many brackets are open around them. -/
  keys : List (Nat × PossibleKey) := []

abbrev Lex := StateT Lexer (Except Error)

namespace Lex

def scan {α : Type} (s : Scan α) : Lex α := do
  let lexer ← get
  let (a, cursor) ← s.run lexer.cursor
  set { lexer with cursor }
  return a

def place : Lex Cursor := return (← get).cursor

def inFlow : Lex Bool := return 0 < (← get).depth

def allowKey (allowed : Bool) : Lex Unit := modify fun l => { l with keyAllowed := allowed }

def push (token : Token) : Lex Unit := modify fun l => { l with queue := l.queue ++ [token] }

/-- Puts a token that takes no room at the end of the queue. -/
def pushHere (kind : TokenKind) : Lex Unit := do
  let place ← place
  push ⟨kind, place, place⟩

def pushMark (kind : TokenKind) (size : Nat) : Lex Unit := do
  let start ← place
  scan (Scan.skip size)
  push ⟨kind, start, ← place⟩

/-- Fails because a key that had to be one is none. -/
def checkOptional (key : PossibleKey) : Lex Unit := do
  if key.required then
    throw (.within .simpleKey (some key.place) .missingColon (← place))

/-- How far behind its colon may be for a key to be one. -/
def maxKeyLength : Nat := 1024

/-- Forgets the possible keys that are too far behind to be keys, oldest first. -/
def dropStale : List (Nat × PossibleKey) → Lex (List (Nat × PossibleKey))
  | [] => return []
  | (depth, key) :: rest => do
    let place ← place
    if key.place.line ≠ place.line || maxKeyLength < place.index - key.place.index then
      checkOptional key
      dropStale rest
    else return (depth, key) :: (← dropStale rest)

def forgetStale : Lex Unit := do
  let keys ← dropStale (← get).keys
  modify fun l => { l with keys }

def forgetKey : Lex Unit := do
  let l ← get
  if let some key := Entries.get? l.depth l.keys then
    checkOptional key
    set { l with keys := Entries.erase l.depth l.keys }

def noteKey : Lex Unit := do
  let l ← get
  if l.keyAllowed then
    forgetKey
    let key : PossibleKey :=
      ⟨l.taken + l.queue.length, l.depth = 0 && l.indent == l.cursor.column, l.cursor⟩
    modify fun l => { l with keys := l.keys ++ [(l.depth, key)] }

/-- Ends the blocks to the right of a column; `blocks` are the columns around them. -/
def closeBlocks (column : Int) : (blocks : List Int) → Lex Unit
  | [] => return ()
  | outer :: rest => do
    if column < (← get).indent then
      modify fun l => { l with indent := outer, outer := rest }
      pushHere .blockEnd
      closeBlocks column rest

/-- Ends the blocks to the right of a column, outside brackets. -/
def unwind (column : Int) : Lex Unit := do
  if !(← inFlow) then closeBlocks column (← get).outer

/-- Starts a block at a column to the right of the one around it; gives whether one was started. -/
def indentTo (column : Nat) : Lex Bool := do
  let l ← get
  if l.indent < column then
    set { l with indent := column, outer := l.indent :: l.outer }
    return true
  else return false

def startBlock (kind : TokenKind) : Lex Unit := do
  if ← indentTo (← place).column then pushHere kind

def checkAllowed (problem : Problem) : Lex Unit := do
  if !(← get).keyAllowed then throw (.found problem (← place))

/-- Moves over spaces, comments and line breaks. A line break outside brackets lets a key start. -/
def skipGaps : (fuel : Nat) → Lex Unit
  | 0 => return ()
  | fuel + 1 => do
    scan do
      discard (Scan.takeWhile (· == ' '))
      if (← Scan.peek) == '#' then discard (Scan.takeWhile (!isEnd ·))
    let taken ← scan Scan.lineBreak
    if !taken.isEmpty then
      if !(← inFlow) then allowKey true
      skipGaps fuel

/-! ## Tokens -/

def streamEnd : Lex Unit := do
  unwind (-1)
  forgetKey
  modify fun l => { l with keyAllowed := false, keys := [], finished := true }
  pushHere .streamEnd

def directive : Lex Unit := do
  unwind (-1)
  forgetKey
  allowKey false
  push (← scan Scan.directive)

def documentMarker (kind : TokenKind) : Lex Unit := do
  unwind (-1)
  forgetKey
  allowKey false
  pushMark kind 3

def openFlow (kind : TokenKind) : Lex Unit := do
  noteKey
  modify fun l => { l with depth := l.depth + 1, keyAllowed := true }
  pushMark kind 1

def closeFlow (kind : TokenKind) : Lex Unit := do
  forgetKey
  modify fun l => { l with depth := l.depth - 1, keyAllowed := false }
  pushMark kind 1

def flowEntry : Lex Unit := do
  allowKey true
  forgetKey
  pushMark .flowEntry 1

def blockEntry : Lex Unit := do
  if !(← inFlow) then
    checkAllowed .sequenceHere
    startBlock .blockSequenceStart
  allowKey true
  forgetKey
  pushMark .blockEntry 1

def explicitKey : Lex Unit := do
  if !(← inFlow) then
    checkAllowed .keyHere
    startBlock .blockMappingStart
  allowKey !(← inFlow)
  forgetKey
  pushMark .key 1

def insertAt (number : Nat) (tokens : List Token) : Lex Unit := modify fun l =>
  let (earlier, later) := l.queue.splitAt (number - l.taken)
  { l with queue := earlier ++ tokens ++ later }

/-- A colon: what comes before it is a key, or the key is empty. -/
def value : Lex Unit := do
  let l ← get
  match Entries.get? l.depth l.keys with
  | some key =>
    set { l with keys := Entries.erase l.depth l.keys }
    let starts ← if l.depth = 0 then indentTo key.place.column else pure false
    insertAt key.number <|
      (if starts then [⟨.blockMappingStart, key.place, key.place⟩] else [])
        ++ [⟨.key, key.place, key.place⟩]
    allowKey false
  | none =>
    if l.depth = 0 then
      checkAllowed .valueHere
      startBlock .blockMappingStart
    allowKey (l.depth = 0)
    forgetKey
  pushMark .value 1

def keyLike (s : Scan Token) : Lex Unit := do
  noteKey
  allowKey false
  push (← scan s)

def blockScalar (folded : Bool) : Lex Unit := do
  allowKey true
  forgetKey
  push (← scan (Scan.block folded (← get).indent))

def plainScalar : Lex Unit := do
  noteKey
  allowKey false
  let (token, lineEnded) ← scan (Scan.plain (← inFlow) (← get).indent)
  allowKey lineEnded
  push token

def isIndicator (c : Char) : Bool :=
  ['-', '?', ':', ',', '[', ']', '\x7b', '\x7d', '#', '&', '*', '!', '|', '>', '\'', '"', '%', '@',
   '\u0060'].contains c

def fetch : Lex Unit := do
  if (← place).index = 0 && (← place).peek == '\ufeff' then scan (Scan.skip 1)
  skipGaps (← scan Scan.bound)
  forgetStale
  let here ← place
  unwind here.column
  let c := here.peek
  let gapAfter := isGap (here.peekAt 1)
  let flow ← inFlow
  let marker := here.column = 0 && Scan.isMarker here
  if c == '\x00' then streamEnd
  else if c == '%' && here.column = 0 then directive
  else if c == '-' && marker then documentMarker .documentStart
  else if c == '.' && marker then documentMarker .documentEnd
  else if c == '[' then openFlow .flowSequenceStart
  else if c == '\x7b' then openFlow .flowMappingStart
  else if c == ']' then closeFlow .flowSequenceEnd
  else if c == '\x7d' then closeFlow .flowMappingEnd
  else if c == ',' then flowEntry
  else if c == '-' && gapAfter then blockEntry
  else if c == '?' && (flow || gapAfter) then explicitKey
  else if c == ':' && (flow || gapAfter) then value
  else if c == '*' then keyLike (Scan.anchor .reference .reference)
  else if c == '&' then keyLike (Scan.anchor .anchor .anchor)
  else if c == '!' then keyLike Scan.tag
  else if c == '|' && !flow then blockScalar false
  else if c == '>' && !flow then blockScalar true
  else if c == '\'' then keyLike (Scan.quoted false)
  else if c == '"' then keyLike (Scan.quoted true)
  else if !isGap c && !isIndicator c then plainScalar
  else if !gapAfter && (c == '-' || (!flow && (c == '?' || c == ':'))) then plainScalar
  else throw (.within .nextToken none (.noToken c) here)

/-- Whether the first token of the queue may still get another in front of it. -/
def isOpen (l : Lexer) : Bool :=
  l.keys.any fun e => e.2.number = l.taken && l.keys.all fun f => l.taken ≤ f.2.number

/-- Finds tokens until nothing can be put in front of the first one. -/
def fill : (fuel : Nat) → Lex Unit
  | 0 => return ()
  | fuel + 1 => do
    if (← get).finished then return ()
    if (← get).queue.isEmpty then
      fetch
      fill fuel
    else
      forgetStale
      if isOpen (← get) then
        fetch
        fill fuel

/-- The next token, which stays in the queue. After the end there is only the end. -/
def peek : Lex Token := do
  fill (2 * (← scan Scan.bound))
  match (← get).queue with
  | token :: _ => return token
  | [] =>
    let place ← place
    return ⟨.streamEnd, place, place⟩

def next : Lex Token := do
  let token ← peek
  modify fun l => { l with queue := l.queue.drop 1, taken := l.taken + 1 }
  return token

end Lex

end ChatEngine.Yaml
