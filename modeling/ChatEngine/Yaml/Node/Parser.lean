import ChatEngine.Yaml.Lexer.Basic
import ChatEngine.Yaml.Node.Basic

/-!
# Parsing YAML nodes

From tokens to the node of a document. An alias is the node of its anchor; an anchor can be named
only after its node is complete, so no node is part of itself.
-/
namespace ChatEngine.Yaml

/-- A named node. -/
structure Anchor where
  start : Cursor
  node : Option Node := none

/-- The state of a parser. -/
structure Parser where
  lexer : Lexer
  /-- What the handles of tags stand for. -/
  handles : List (String × String) := []
  anchors : List (String × Anchor) := []

abbrev Parse := StateT Parser (Except Error)

namespace Parse

def lex {α : Type} (step : Lex α) : Parse α := do
  let parser ← get
  let (a, lexer) ← step.run parser.lexer
  set { parser with lexer }
  return a

def peek : Parse Token := lex Lex.peek

def next : Parse Token := lex Lex.next

/-- What stands before the content of a node. -/
structure Properties where
  anchor : Option String := none
  tag : Option String := none
  start : Option Cursor := none

namespace Properties

/-- The tag that is written, where it says more than that there is none. -/
def written? (p : Properties) : Option Tag := (p.tag.filter (· ≠ "!")).map Tag.ofName

/-- The tag of a scalar. A lone exclamation mark makes a quoted scalar count as a plain one. -/
def scalarTag (p : Properties) (text : String) (plain : Bool) : Tag :=
  p.written?.getD (if plain || p.tag.isSome then Tag.ofPlain text else .str)

def isEmpty (p : Properties) : Bool := p.anchor.isNone && p.tag.isNone

end Properties

def tagName (start : Option Cursor) (place : Cursor) (handle : Option String) (suffix : String) :
    Parse String := do
  match handle with
  | none => return suffix
  | some handle => match Entries.get? handle (← get).handles with
    | some expansion => return expansion ++ suffix
    | none => throw (.within .node start (.undefinedHandle handle) place)

def anchor? : Parse (Option (String × Cursor)) := do
  match (← peek).kind with
  | .anchor name => return some (name, (← next).start)
  | _ => return none

def tag? : Parse (Option ((Option String × String) × Cursor)) := do
  match (← peek).kind with
  | .tag handle suffix => return some ((handle, suffix), (← next).start)
  | _ => return none

/-- Takes the properties of a node: an anchor and a tag, in either order. -/
def properties : Parse Properties := do
  let before ← anchor?
  let tag ← tag?
  let after ← if before.isNone && tag.isSome then anchor? else pure none
  let start := (before.map (·.2)).or (tag.map (·.2))
  let name ← tag.mapM fun ((handle, suffix), place) => tagName start place handle suffix
  return ⟨(before.or after).map (·.1), name, start⟩

def aliased (name : String) (place : Cursor) : Parse Node := do
  match Entries.get? name (← get).anchors with
  | none => throw (.found (.undefinedAlias name) place)
  | some ⟨_, some node⟩ => return node
  | some ⟨start, none⟩ => throw (.found .recursive start)

/-- Names the node that `content` gives by its anchor, if it has one. -/
def anchored (properties : Properties) (start : Cursor) (content : Parse Node) : Parse Node := do
  match properties.anchor with
  | none => content
  | some name =>
    if let some first := Entries.get? name (← get).anchors then
      throw (.within (.firstAnchor name) (some first.start) .secondAnchor start)
    modify fun p => { p with anchors := Entries.put name ⟨start, none⟩ p.anchors }
    let node ← content
    modify fun p => { p with anchors := Entries.put name ⟨start, some node⟩ p.anchors }
    return node

/-- Whether a token is one of those after which nothing has been written in a block mapping. -/
def endsBlockEntry : TokenKind → Bool
  | .key | .value | .blockEnd => true
  | _ => false

def endsFlowEntry : TokenKind → Bool
  | .flowEntry | .flowSequenceEnd | .flowMappingEnd => true
  | _ => false

/-- Takes the comma before all entries in brackets but the first. -/
def comma (first : Bool) (context : Context) (start : Cursor) (close : Char) : Parse Unit := do
  if !first then
    let token ← peek
    if token.kind = .flowEntry then discard next
    else throw (.within context (some start) (.neitherCommaNor close token.kind.name) token.start)

/-- Parses a node unless the token after `mark` ends the entry. -/
def unlessEnded (mark : Token) (ends : TokenKind → Bool) (node : Parse Node) : Parse Node := do
  if ends (← peek).kind then return .empty mark.stop else node

/-- Parses the value after a key, if there is a colon. -/
def valueOf (ends : TokenKind → Bool) (node : Parse Node) : Parse Node := do
  let token ← peek
  if token.kind = .value then
    discard next
    unlessEnded token ends node
  else return .empty token.start

/-- Fails because a token does not belong to the block that started at a place. -/
def notEnded {α : Type} (context : Context) (start : Cursor) (token : Token) : Parse α :=
  throw (.within context (some start) (.unexpectedToken "<block end>" token.kind.name) token.start)

mutual

/-- Parses a node in a block or inside brackets. After a key a sequence need not be indented. -/
def node : (fuel : Nat) → (block afterKey : Bool) → Parse Node
  | 0, _, _ => do throw (.found .recursive (← peek).start)
  | fuel + 1, block, afterKey => do
    if let .reference name := (← peek).kind then
      return ← aliased name (← next).start
    let properties ← properties
    let token ← peek
    let start := properties.start.getD token.start
    let sequence (items : Parse (List Node)) : Parse Node :=
      anchored properties start do
        return .sequence (properties.written?.getD .seq) start (← items)
    let mapping (entries : Parse (List (Node × Node))) : Parse Node :=
      anchored properties start do
        return .ofEntries (properties.written?.getD .map) start (← entries)
    let scalar (text : String) (plain : Bool) : Parse Node :=
      anchored properties start (pure (.scalar (properties.scalarTag text plain) start text))
    match token.kind, block with
    | .scalar text plain, _ => do
      discard next
      scalar text plain
    | .flowSequenceStart, _ => sequence do
      discard next
      flowItems fuel true token.start
    | .flowMappingStart, _ => mapping do
      discard next
      flowEntries fuel true token.start
    | .blockSequenceStart, true => sequence do
      discard next
      blockItems fuel token.start
    | .blockMappingStart, true => mapping do
      discard next
      blockEntries fuel token.start
    | kind, _ =>
      if kind = .blockEntry && afterKey then sequence (flushItems fuel)
      else if properties.isEmpty then
        throw (.within (if block then .blockNode else .flowNode) (some start)
          (.unexpectedToken "the node content" kind.name) token.start)
      else scalar "" true

def blockItems : (fuel : Nat) → (start : Cursor) → Parse (List Node)
  | 0, _ => return []
  | fuel + 1, start => do
    let token ← next
    match token.kind with
    | .blockEntry => do
      let item ← unlessEnded token (fun kind => kind = .blockEntry || kind = .blockEnd)
        (node fuel true false)
      return item :: (← blockItems fuel start)
    | .blockEnd => return []
    | _ => notEnded .blockCollection start token

def flushItems : (fuel : Nat) → Parse (List Node)
  | 0 => return []
  | fuel + 1 => do
    let token ← peek
    if token.kind ≠ .blockEntry then return []
    discard next
    let item ← unlessEnded token (fun kind => kind = .blockEntry || endsBlockEntry kind)
      (node fuel true false)
    return item :: (← flushItems fuel)

def blockEntries : (fuel : Nat) → (start : Cursor) → Parse (List (Node × Node))
  | 0, _ => return []
  | fuel + 1, start => do
    let token ← next
    match token.kind with
    | .key => do
      let key ← unlessEnded token endsBlockEntry (node fuel true true)
      let value ← valueOf endsBlockEntry (node fuel true true)
      return (key, value) :: (← blockEntries fuel start)
    | .blockEnd => return []
    | _ => notEnded .blockMapping start token

/-- Parses the items in square brackets. An item with a colon is a mapping of one entry. -/
def flowItems : (fuel : Nat) → (first : Bool) → (start : Cursor) → Parse (List Node)
  | 0, _, _ => return []
  | fuel + 1, first, start => do
    if (← peek).kind = .flowSequenceEnd then
      discard next
      return []
    comma first .flowSequence start ']'
    let token ← peek
    match token.kind with
    | .flowSequenceEnd => do
      discard next
      return []
    | .key => do
      discard next
      let ends (kind : TokenKind) : Bool := kind = .flowEntry || kind = .flowSequenceEnd
      let key ← unlessEnded token (fun kind => kind = .value || ends kind)
        (node fuel false false)
      let value ← valueOf ends (node fuel false false)
      return .ofEntries .map token.start [(key, value)] :: (← flowItems fuel false start)
    | _ => do
      let item ← node fuel false false
      return item :: (← flowItems fuel false start)

/-- Parses the entries in braces. A key without a colon has no value. -/
def flowEntries : (fuel : Nat) → (first : Bool) → (start : Cursor) → Parse (List (Node × Node))
  | 0, _, _ => return []
  | fuel + 1, first, start => do
    if (← peek).kind = .flowMappingEnd then
      discard next
      return []
    comma first .flowMapping start '\x7d'
    let token ← peek
    match token.kind with
    | .flowMappingEnd => do
      discard next
      return []
    | .key => do
      discard next
      let ends (kind : TokenKind) : Bool := kind = .flowEntry || kind = .flowMappingEnd
      let key ← unlessEnded token (fun kind => kind = .value || ends kind)
        (node fuel false false)
      let value ← valueOf ends (node fuel false false)
      return (key, value) :: (← flowEntries fuel false start)
    | _ => do
      let key ← node fuel false false
      let value := Node.empty (← peek).start
      return (key, value) :: (← flowEntries fuel false start)

end

/-! ## Documents -/

def standardHandles : List (String × String) := [("!", "!"), ("!!", Tag.standardStart)]

def directives : (fuel : Nat) → (versioned : Bool) → (handles : List (String × String)) →
    Parse (List (String × String))
  | 0, _, handles => return handles
  | fuel + 1, versioned, handles => do
    let token ← peek
    match token.kind with
    | .directive (.version major _) => do
      discard next
      if versioned then throw (.found .duplicateVersion token.start)
      if major ≠ 1 then throw (.found .unknownVersion token.start)
      directives fuel true handles
    | .directive (.tag handle expansion) => do
      discard next
      if Entries.has handle handles then throw (.found (.duplicateHandle handle) token.start)
      directives fuel versioned (handles ++ [(handle, expansion)])
    | .directive (.other _) => do
      discard next
      directives fuel versioned handles
    | _ => return handles

def skipEnds : (fuel : Nat) → Parse Unit
  | 0 => return ()
  | fuel + 1 => do
    if (← peek).kind = .documentEnd then
      discard next
      skipEnds fuel

/-- Takes what stands before a document up to its marker, and gives where it starts; nothing at the
end of the text. -/
def documentStart (fuel : Nat) : Parse (Option Cursor) := do
  skipEnds fuel
  let token ← peek
  if token.kind = .streamEnd then return none
  let handles ← directives fuel false []
  modify fun p => { p with handles := Entries.update standardHandles handles }
  let marker ← peek
  if marker.kind ≠ .documentStart then
    throw (.found (.unexpectedToken "'<document start>'" marker.kind.name) marker.start)
  discard next
  return some token.start

def isDocumentMark : TokenKind → Bool
  | .directive _ | .documentStart | .documentEnd | .streamEnd => true
  | _ => false

/-- Parses the node of the first document; nothing if there is none. -/
def firstDocument (fuel : Nat) : Parse (Option Node) := do
  match (← peek).kind with
  | .directive _ | .documentStart | .streamEnd => do
    if (← documentStart fuel).isNone then return none
    let token ← peek
    if isDocumentMark token.kind then return some (.empty token.start)
    return some (← node fuel true false)
  | _ => do
    modify fun p => { p with handles := standardHandles }
    return some (← node fuel true false)

def onlyDocument (fuel : Nat) : Parse (Option Node) := do
  let some document ← firstDocument fuel | return none
  if (← peek).kind = .documentEnd then discard next
  match ← documentStart fuel with
  | none => return some document
  | some start =>
    throw (.within .singleDocument (some document.start) .anotherDocument start)

end Parse

/-- The node of the only document of a text. There are at most four tokens to a character, and each
level of nodes takes one. -/
def Node.ofText (text : String) : Except Error (Option Node) := do
  let (node, _) ← (Parse.onlyDocument (8 * text.length + 64)).run
    { lexer := { cursor := .start text } }
  return node

end ChatEngine.Yaml
