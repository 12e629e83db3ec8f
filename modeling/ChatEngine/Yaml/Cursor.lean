import ChatEngine.Text.Trim

/-!
# Places in a YAML text

A cursor is a place in a text: what is before it, what is after it, and its line and column. It is
what a lexer moves, and where an error says that something was found. The end of the text reads as
the null character, which no text contains.
-/
namespace ChatEngine.Yaml

/-- A place in a text. -/
structure Cursor where
  /-- The characters before, latest first. -/
  before : List Char := []
  rest : List Char
  /-- How many characters are after it. -/
  left : Nat
  index : Nat := 0
  line : Nat := 0
  column : Nat := 0
  deriving DecidableEq, Repr

def isBreak (c : Char) : Bool :=
  c == '\n' || c == '\r' || c == '\u0085' || c == '\u2028' || c == '\u2029'

def isEnd (c : Char) : Bool := c == '\x00' || isBreak c

def isSpaceOrEnd (c : Char) : Bool := c == ' ' || isEnd c

def isBlank (c : Char) : Bool := c == ' ' || c == '\t'

/-- Whether what comes before a character is a token of its own. -/
def isGap (c : Char) : Bool := isBlank c || isEnd c

namespace Cursor

def start (s : String) : Cursor := { rest := s.toList, left := s.length }

def peek (c : Cursor) : Char := c.rest.headD '\x00'

def peekAt (c : Cursor) (n : Nat) : Char := c.rest.getD n '\x00'

/-- The place behind the next character. A byte order mark takes no column. -/
def next (c : Cursor) : Cursor :=
  match c.rest with
  | [] => c
  | x :: rest =>
    let moved :=
      { c with before := x :: c.before, rest, left := c.left - 1, index := c.index + 1 }
    if isBreak x && !(x == '\r' && rest.head? == some '\n') then
      { moved with line := c.line + 1, column := 0 }
    else if x == '\ufeff' then moved
    else { moved with column := c.column + 1 }

def advance : (n : Nat) → Cursor → Cursor
  | 0, c => c
  | n + 1, c => advance n c.next

/-- How much of a line is shown on either side of a place when it is too long. -/
def shownWidth : Nat := 37

/-- The part of a line next to a place that is shown, and whether it is not all of it. -/
def shownPart (line : List Char) : List Char × Bool :=
  if line.length < shownWidth then (line, false) else (line.take (shownWidth - 5), true)

def snippet (c : Cursor) : String :=
  let (head, cutHead) := shownPart (c.before.takeWhile (!isEnd ·))
  let (tail, cutTail) := shownPart (c.rest.takeWhile (!isEnd ·))
  let lead := (if cutHead then " ... ".toList else []) ++ head.reverse
  "    " ++ String.ofList (lead ++ tail) ++ (if cutTail then " ... " else "") ++ "\n    "
    ++ String.ofList (List.replicate lead.length ' ') ++ "^"

def text (c : Cursor) : String :=
  s!"  in \"<unicode string>\", line {c.line + 1}, column {c.column + 1}:\n" ++ c.snippet

end Cursor

end ChatEngine.Yaml
