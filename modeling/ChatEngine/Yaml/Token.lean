import ChatEngine.Yaml.Cursor

/-!
# YAML tokens

The tokens of YAML. Where blocks start and end is a token like any other, although nothing but the
indentation says so.
-/
namespace ChatEngine.Yaml

/-- A line that starts with a percent sign. -/
inductive Directive where
  | version (major minor : Nat)
  /-- What stands in tags for the start of their names. -/
  | tag (handle expansion : String)
  | other (name : String)
  deriving DecidableEq, Repr

/-- What a token is. -/
inductive TokenKind where
  | directive (d : Directive)
  | documentStart
  | documentEnd
  | streamEnd
  | blockSequenceStart
  | blockMappingStart
  | blockEnd
  | flowSequenceStart
  | flowSequenceEnd
  | flowMappingStart
  | flowMappingEnd
  | key
  | value
  | blockEntry
  | flowEntry
  /-- An alias: the name of an anchor that came before. -/
  | reference (name : String)
  | anchor (name : String)
  /-- A tag without a handle stands for itself. -/
  | tag (handle : Option String) (suffix : String)
  | scalar (text : String) (plain : Bool)
  deriving DecidableEq, Repr

namespace TokenKind

def name : TokenKind → String
  | directive _ => "<directive>"
  | documentStart => "<document start>"
  | documentEnd => "<document end>"
  | streamEnd => "<stream end>"
  | blockSequenceStart => "<block sequence start>"
  | blockMappingStart => "<block mapping start>"
  | blockEnd => "<block end>"
  | flowSequenceStart => "["
  | flowSequenceEnd => "]"
  | flowMappingStart => "\x7b"
  | flowMappingEnd => "\x7d"
  | key => "?"
  | value => ":"
  | blockEntry => "-"
  | flowEntry => ","
  | reference _ => "<alias>"
  | anchor _ => "<anchor>"
  | tag .. => "<tag>"
  | scalar .. => "<scalar>"

end TokenKind

/-- A token and where it is. -/
structure Token where
  kind : TokenKind
  start : Cursor
  stop : Cursor
  deriving DecidableEq, Repr

end ChatEngine.Yaml
