import ChatEngine.Calendar.Moment
import ChatEngine.Decimal.Integer
import ChatEngine.Fault
import ChatEngine.Yaml.Cursor

/-!
# YAML errors

Why a text is no YAML document that can be read: what was found and where, and what was being read
at the time and where that had started.
-/
namespace ChatEngine.Yaml

/-- What was being read when an error was found. -/
inductive Context where
  | nextToken
  | simpleKey
  | directive
  | directiveUri
  | reference
  | anchor
  | tag
  | tagUri
  | blockScalar
  | doubleQuoted
  | quoted
  | blockNode
  | flowNode
  | node
  | blockCollection
  | blockMapping
  | flowSequence
  | flowMapping
  | singleDocument
  | firstAnchor (name : String)
  | mapping
  | orderedMap
  | pairs
  deriving DecidableEq, Repr

def Context.text : Context → String
  | nextToken => "while scanning for the next token"
  | simpleKey => "while scanning a simple key"
  | directive => "while scanning a directive"
  | directiveUri => "while parsing a directive"
  | reference => "while scanning an alias"
  | anchor => "while scanning an anchor"
  | tag => "while scanning a tag"
  | tagUri => "while parsing a tag"
  | blockScalar => "while scanning a block scalar"
  | doubleQuoted => "while scanning a double-quoted scalar"
  | quoted => "while scanning a quoted scalar"
  | blockNode => "while parsing a block node"
  | flowNode => "while parsing a flow node"
  | node => "while parsing a node"
  | blockCollection => "while parsing a block collection"
  | blockMapping => "while parsing a block mapping"
  | flowSequence => "while parsing a flow sequence"
  | flowMapping => "while parsing a flow mapping"
  | singleDocument => "expected a single document in the stream"
  | firstAnchor name => "found duplicate anchor " ++ Text.quote name ++ "; first occurrence"
  | mapping => "while constructing a mapping"
  | orderedMap => "while constructing an ordered map"
  | pairs => "while constructing pairs"

/-- What was found. -/
inductive Problem where
  | noToken (found : Char)
  | missingColon
  | sequenceHere
  | keyHere
  | valueHere
  | unexpected (wanted : String) (found : Char)
  | zeroIndentation
  | unknownEscape (found : Char)
  | notUtf8 (reason : String)
  | endOfStream
  | documentSeparator
  /-- A token, by its name, that is none of the expected ones. -/
  | unexpectedToken (wanted found : String)
  /-- A token inside brackets that neither goes on nor ends what is in them. -/
  | neitherCommaNor (close : Char) (found : String)
  | duplicateVersion
  | unknownVersion
  | duplicateHandle (handle : String)
  | undefinedHandle (handle : String)
  | undefinedAlias (name : String)
  | secondAnchor
  | anotherDocument
  | recursive
  | unknownTag (tag : String)
  /-- A node that is not of the kind that its tag asks for. -/
  | wrongNode (wanted found : String)
  | unhashableKey
  | notMergeable (found : String)
  | itemNotMergeable (found : String)
  | notSequence (found : String)
  | notSingleMapping (found : String)
  | itemCount (n : Nat)
  deriving DecidableEq, Repr

namespace Problem

def quoted (c : Char) : String := Text.quote (String.singleton c)

def text : Problem → String
  | noToken c => "found character " ++ quoted c ++ " that cannot start any token"
  | missingColon => "could not find expected ':'"
  | sequenceHere => "sequence entries are not allowed here"
  | keyHere => "mapping keys are not allowed here"
  | valueHere => "mapping values are not allowed here"
  | unexpected wanted c => "expected " ++ wanted ++ ", but found " ++ quoted c
  | zeroIndentation => "expected indentation indicator in the range 1-9, but found 0"
  | unknownEscape c => "found unknown escape character " ++ quoted c
  | notUtf8 reason => reason
  | endOfStream => "found unexpected end of stream"
  | documentSeparator => "found unexpected document separator"
  | unexpectedToken wanted found => "expected " ++ wanted ++ ", but found " ++ Text.quote found
  | neitherCommaNor close found =>
    "expected ',' or " ++ quoted close ++ ", but got " ++ Text.quote found
  | duplicateVersion => "found duplicate YAML directive"
  | unknownVersion => "found incompatible YAML document (version 1.* is required)"
  | duplicateHandle handle => "duplicate tag handle " ++ Text.quote handle
  | undefinedHandle handle => "found undefined tag handle " ++ Text.quote handle
  | undefinedAlias name => "found undefined alias " ++ Text.quote name
  | secondAnchor => "second occurrence"
  | anotherDocument => "but found another document"
  | recursive => "found unconstructable recursive node"
  | unknownTag tag => "could not determine a constructor for the tag " ++ Text.quote tag
  | wrongNode wanted found => s!"expected a {wanted} node, but found {found}"
  | unhashableKey => "found unhashable key"
  | notMergeable found => "expected a mapping or list of mappings for merging, but found " ++ found
  | itemNotMergeable found => "expected a mapping for merging, but found " ++ found
  | notSequence found => "expected a sequence, but found " ++ found
  | notSingleMapping found => "expected a mapping of length 1, but found " ++ found
  | itemCount n => s!"expected a single mapping item, but found {n} items"

def kind : Problem → FaultKind
  | unexpectedToken .. | neitherCommaNor .. | duplicateVersion | unknownVersion
  | duplicateHandle _ | undefinedHandle _ => .parsing
  | undefinedAlias _ | secondAnchor | anotherDocument => .composing
  | recursive | unknownTag _ | wrongNode .. | unhashableKey | notMergeable _ | itemNotMergeable _
  | notSequence _ | notSingleMapping _ | itemCount _ => .constructing
  | _ => .scanning

end Problem

/-- Why the text of a scalar does not denote what its tag says. -/
inductive ScalarError where
  | noDigits (base : Nat)
  | integer (cause : Decimal.IntegerError)
  | moment (cause : Calendar.MomentError)
  | notFloat (text : String)
  | notTruth (text : String)
  | notMoment
  | empty
  /-- An escape by a number that no character has. -/
  | noCharacter
  /-- An escape by a number of more than 31 bits. -/
  | codeTooLarge
  deriving DecidableEq, Repr

def ScalarError.fault : ScalarError → Fault
  | noDigits base => .invalidValue s!"invalid literal for int() with base {base}: ''"
  | integer cause => .invalidValue cause.message
  | moment cause => .invalidValue cause.message
  | notFloat text => .invalidValue ("could not convert string to float: " ++ Text.quote text)
  | notTruth text => .missingKey text
  | notMoment => ⟨.missingAttribute, "'NoneType' object has no attribute 'groupdict'"⟩
  | empty => ⟨.badIndex, "string index out of range"⟩
  | noCharacter => .invalidValue "chr() arg not in range(0x110000)"
  | codeTooLarge => ⟨.overflow, "Python int too large to convert to C int"⟩

/-- Why a text cannot be read. -/
inductive Error where
  /-- A character that no document may contain, by its index. -/
  | unprintable (c : Char) (index : Nat)
  | found (problem : Problem) (place : Cursor)
  | within (context : Context) (start : Option Cursor) (problem : Problem) (place : Cursor)
  | scalar (cause : ScalarError)
  deriving DecidableEq, Repr

namespace Error

/-- The error as a fault. Where the context started is not told when the problem is at the same
place. -/
def fault : Error → Fault
  | unprintable c index =>
    ⟨.unprintable, "unacceptable character #x" ++ String.ofList (Text.hexText 4 c.toNat)
      ++ ": special characters are not allowed\n  in \"<unicode string>\", position "
      ++ toString index⟩
  | found problem place => ⟨problem.kind, problem.text ++ "\n" ++ place.text⟩
  | within context start problem place =>
    let elsewhere := start.filter fun s => s.line ≠ place.line || s.column ≠ place.column
    ⟨problem.kind, Text.join "\n" ([context.text] ++ (elsewhere.map (·.text)).toList
      ++ [problem.text, place.text])⟩
  | scalar cause => cause.fault

end Error

end ChatEngine.Yaml
