import ChatEngine.Yaml.Scalar

/-!
# YAML tags

Tags: what the content of a node denotes. A plain scalar without a tag gets one by its form.
-/
namespace ChatEngine.Yaml

/-- A tag. -/
inductive Tag where
  | null
  | bool
  | int
  | float
  | timestamp
  /-- A key whose value is merged into the map. -/
  | merge
  /-- A key whose value stands for the map. -/
  | value
  | str
  | binary
  | seq
  | map
  | orderedMap
  | pairs
  | set
  | other (name : String)
  deriving DecidableEq, Repr

namespace Tag

def standardStart : String := "tag:yaml.org,2002:"

def standard : List (String × Tag) :=
  [("null", null), ("bool", bool), ("int", int), ("float", float), ("timestamp", timestamp),
   ("merge", merge), ("value", value), ("str", str), ("binary", binary), ("seq", seq), ("map", map),
   ("omap", orderedMap), ("pairs", pairs), ("set", set)]

def ofName (name : String) : Tag :=
  ((Text.dropStart? standardStart name).bind fun rest => standard.lookup rest).getD (other name)

def name : Tag → String
  | other name => name
  | tag => ((standard.find? (·.2 = tag)).map fun e => standardStart ++ e.1).getD ""

def ofPlain (text : String) : Tag :=
  let cs := text.toList
  if (truthOfWord? text).isSome then bool
  else if isFloat cs then float
  else if isInteger cs then int
  else if text == "<<" then merge
  else if nullWords.contains text then null
  else if isTimestamp cs then timestamp
  else if text == "=" then value
  else str

end Tag

end ChatEngine.Yaml
