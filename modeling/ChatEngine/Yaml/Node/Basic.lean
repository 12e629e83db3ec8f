import ChatEngine.Yaml.Tag

/-!
# YAML nodes

The nodes of a document: scalars, sequences and mappings, each with its tag and the place where it
starts. The entries that a mapping merges into itself are among its entries.
-/
namespace ChatEngine.Yaml

/-- A node. -/
inductive Node where
  | scalar (tag : Tag) (start : Cursor) (text : String)
  | sequence (tag : Tag) (start : Cursor) (items : List Node)
  /-- `broken` says why nothing could be merged into the mapping. -/
  | mapping (tag : Tag) (start : Cursor) (entries : List (Node × Node)) (broken : Option Error)

namespace Node

def tag : Node → Tag
  | scalar tag .. | sequence tag .. | mapping tag .. => tag

def start : Node → Cursor
  | scalar _ start _ | sequence _ start _ | mapping _ start .. => start

def kindName : Node → String
  | scalar .. => "scalar"
  | sequence .. => "sequence"
  | mapping .. => "mapping"

/-- A scalar of which nothing is written. -/
def empty (place : Cursor) : Node := scalar .null place ""

def isScalar : Node → Bool
  | scalar .. => true
  | _ => false

/-- The entries of a mapping that is merged into the one that starts at `owner`. -/
def mergedEntries (owner : Cursor) (problem : String → Problem) :
    Node → Except Error (List (Node × Node))
  | mapping _ _ entries none => .ok entries
  | mapping _ _ _ (some e) => .error e
  | node => .error (.within .mapping (some owner) (problem node.kindName) node.start)

/-- What the value of a merge key adds: the entries of a mapping, or those of a sequence of
mappings, of which the later ones come first. -/
def mergedBy (owner : Cursor) : Node → Except Error (List (Node × Node))
  | sequence _ _ items => do
    return (← items.mapM (mergedEntries owner .itemNotMergeable)).reverse.flatten
  | node => mergedEntries owner .notMergeable node

def ofEntries (tag : Tag) (start : Cursor) (entries : List (Node × Node)) : Node :=
  let merging := entries.filter (·.1.tag = .merge)
  let own := entries.filter (·.1.tag ≠ .merge)
  match merging.mapM fun e => mergedBy start e.2 with
  | .ok merged => mapping tag start (merged.flatten ++ own) none
  | .error e => mapping tag start own (some e)

end Node

end ChatEngine.Yaml
