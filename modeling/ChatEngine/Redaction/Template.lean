import ChatEngine.Decimal.Integer
import ChatEngine.Text.Quoted

/-!
# Replacement templates

Replacement templates. A backslash starts an escape: a control character, a character by its octal
number, or a reference to a group of the text matched, by number or by name. Group zero is all of
the text matched.
-/
namespace ChatEngine.Redaction

/-- Why a text is no template. -/
inductive TemplateError where
  | openEscape (position : Nat)
  | badEscape (escape : String) (position : Nat)
  | octalTooLarge (escape : String) (position : Nat)
  | missingOpening (position : Nat)
  | missingName (position : Nat)
  | missingClosing (position : Nat)
  | badName (name : String) (position : Nat)
  | unknownName (name : String)
  | noSuchGroup (index : Nat) (position : Nat)
  deriving DecidableEq, Repr

namespace TemplateError

/-- A place in a template, by line and column too if it has several lines. -/
def place (template : String) (position : Nat) : String :=
  let before := template.toList.take position
  let line := before.count '\n' + 1
  let column := (before.reverse.takeWhile (· ≠ '\n')).length + 1
  s!" at position {position}"
    ++ if template.toList.contains '\n' then s!" (line {line}, column {column})" else ""

def message (template : String) : TemplateError → String
  | openEscape p => "bad escape (end of pattern)" ++ place template p
  | badEscape e p => "bad escape " ++ e ++ place template p
  | octalTooLarge e p =>
    "octal escape value " ++ e ++ " outside of range 0-0o377" ++ place template p
  | missingOpening p => "missing <" ++ place template p
  | missingName p => "missing group name" ++ place template p
  | missingClosing p => "missing >, unterminated name" ++ place template p
  | badName n p => "bad character in group name " ++ Text.quote n ++ place template p
  | unknownName n => "unknown group name " ++ Text.quote n
  | noSuchGroup i p => s!"invalid group reference {i}" ++ place template p

end TemplateError

/-- A part of a template. -/
inductive TemplatePart where
  | literal (cs : List Char)
  /-- A group of the text matched. -/
  | group (index : Nat)
  deriving DecidableEq, Repr

/-- The characters of a template, each backslash together with the character after it. -/
def tokens : List Char → List (List Char)
  | '\\' :: c :: cs => ['\\', c] :: tokens cs
  | c :: cs => [c] :: tokens cs
  | [] => []

/-- A place in a template: the tokens to come, and how many characters came before. -/
structure Cursor where
  tokens : List (List Char)
  position : Nat

namespace Cursor

/-- The cursor after the next token. A backslash that ends the template is found as soon as it is
the next token. -/
def skip (c : Cursor) : Except TemplateError Cursor :=
  let rest := c.tokens.drop 1
  let position := c.position + (c.tokens.headD []).length
  if rest = [['\\']] then .error (.openEscape position) else .ok ⟨rest, position⟩

/-- The next token if it is one digit below the given one. -/
def digit? (c : Cursor) (below : Char) : Option Char :=
  match c.tokens with
  | [d] :: _ => if '0' ≤ d && d < below then some d else none
  | _ => none

end Cursor

def octal (digits : List Char) : Nat := digits.foldl (fun n d => 8 * n + (d.toNat - 48)) 0

def control? : Char → Option Char
  | 'a' => some '\x07'
  | 'b' => some '\x08'
  | 'f' => some '\x0c'
  | 'n' => some '\n'
  | 'r' => some '\r'
  | 't' => some '\t'
  | 'v' => some '\x0b'
  | '\\' => some '\\'
  | _ => none

/-- A reference to a group, if there is one of that number. -/
def reference (groups index position : Nat) : Except TemplateError TemplatePart :=
  if index ≤ groups then .ok (.group index) else .error (.noSuchGroup index position)

def readName : Nat → List Char → Cursor → Except TemplateError (String × Cursor)
  | 0, _, c => .error (.missingName c.position)
  | fuel + 1, name, c =>
    match c.tokens with
    | [] => .error (if name.isEmpty then .missingName c.position
        else .missingClosing (c.position - name.length))
    | t :: _ => do
      let next ← c.skip
      if t = ['>'] then
        if name.isEmpty then throw (.missingName (next.position - 1))
        return (String.ofList name, next)
      readName fuel (name ++ t) next

def isName (s : String) : Bool :=
  match s.toList with
  | [] => false
  | c :: cs => Text.isNameStart c && cs.all Text.isNamePart

def readGroup (groups : Nat) (c : Cursor) : Except TemplateError (TemplatePart × Cursor) := do
  if c.tokens.head? ≠ some ['<'] then throw (.missingOpening c.position)
  let (name, c) ← readName (c.tokens.length + 1) [] (← c.skip)
  let position := c.position - name.length - 1
  if isName name then throw (.unknownName name)
  match Decimal.parseInt? name with
  | some (.ofNat index) => return (← reference groups index position, c)
  | _ => throw (.badName name position)

def readDigits (groups : Nat) (d : Char) (c : Cursor) :
    Except TemplateError (TemplatePart × Cursor) := do
  let start := c.position - 2
  let code (digits : List Char) : TemplatePart := .literal [Char.ofNat (octal digits % 256)]
  if d = '0' then
    match c.digit? '8' with
    | none => return (code [d], c)
    | some e =>
      let c ← c.skip
      match c.digit? '8' with
      | none => return (code [d, e], c)
      | some f => return (code [d, e, f], ← c.skip)
  match c.digit? ':' with
  | none => return (← reference groups (d.toNat - 48) (start + 1), c)
  | some e =>
    let c ← c.skip
    match c.digit? '8' with
    | some f =>
      if d < '8' && e < '8' then
        let c ← c.skip
        if 255 < octal [d, e, f] then
          throw (.octalTooLarge (String.ofList ['\\', d, e, f]) start)
        return (code [d, e, f], c)
      else return (← reference groups (10 * (d.toNat - 48) + (e.toNat - 48)) (start + 1), c)
    | none => return (← reference groups (10 * (d.toNat - 48) + (e.toNat - 48)) (start + 1), c)

def readEscape (groups : Nat) (e : Char) (c : Cursor) :
    Except TemplateError (TemplatePart × Cursor) :=
  if e = 'g' then readGroup groups c
  else if e.isDigit then readDigits groups e c
  else match control? e with
    | some ch => .ok (.literal [ch], c)
    | none =>
      if e.isAlpha then .error (.badEscape (String.ofList ['\\', e]) (c.position - 2))
      else .ok (.literal ['\\', e], c)

/-- Reads the parts of a template. Each part takes at least one token. -/
def readParts (groups : Nat) : Nat → Cursor → Except TemplateError (List TemplatePart)
  | 0, _ => .ok []
  | fuel + 1, c => match c.tokens with
    | [] => .ok []
    | t :: _ => do
      let next ← c.skip
      match t with
      | ['\\', e] =>
        let (part, next) ← readEscape groups e next
        return part :: (← readParts groups fuel next)
      | cs => return .literal cs :: (← readParts groups fuel next)

def readTemplate (groups : Nat) (template : String) : Except TemplateError (List TemplatePart) :=
  let ts := tokens template.toList
  if ts = [['\\']] then .error (.openEscape 0) else readParts groups (ts.length + 1) ⟨ts, 0⟩

def fillTemplate (parts : List TemplatePart) (matched : List Char) : List Char :=
  parts.flatMap fun
    | .literal cs => cs
    | .group _ => matched

end ChatEngine.Redaction
