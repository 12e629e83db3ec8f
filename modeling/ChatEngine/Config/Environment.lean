import ChatEngine.Config.Reader
import ChatEngine.Json.Reader

/-!
# The environment of a configuration

The environment: named texts that stand in for fields a configuration leaves out, and for
references inside a configuration file.
-/
namespace ChatEngine.Config

abbrev Environment := List (String × String)

def variableStart : String := "slackscot_"

def splitKeys (name : String) : List String := (name.splitOn "__")

/-- Whether the field at a path is a group or a map of its own; in the configurations of the
plugins a value may be one or not. -/
inductive FieldShape where
  | plain
  | structured
  | either
  deriving DecidableEq, Repr

def shapeOf : List String → FieldShape
  | ["plugins"] | ["logging"] | ["logging", "file"] => .structured
  | "plugins" :: _ => .either
  | _ => .plain

/-- The value of a variable: fields that are no plain ones are written as JSON. -/
def variableValue (path : List String) (value : String) : Except Fault Value :=
  match shapeOf path, Json.read? value with
  | .plain, _ => .ok (.str value)
  | .structured, some v | .either, some v => .ok v
  | .either, none => .ok (.str value)
  | .structured, none =>
    .error ⟨.settings, "error parsing value for field " ++ "\"" ++ path.headD "" ++ "\""
      ++ " from source \"EnvSettingsSource\""⟩

def putAt : (path : List String) → Value → List (String × Value) → List (String × Value)
  | [], _, entries => entries
  | [key], v, entries => Entries.put key v entries
  | key :: path, v, entries => match Entries.get? key entries with
    | some (.map inner) => Entries.put key (.map (putAt path v inner)) entries
    | some _ => entries
    | none => Entries.put key (.map (putAt path v [])) entries

/-- The value that the environment has for a field: its own variable, and those of fields inside
it. -/
def environmentField (env : Environment) (name : String) : Except Fault (Option Value) := do
  let own ← match Entries.get? (variableStart ++ name) env with
    | some value => some <$> variableValue [name] value
    | none => pure none
  if shapeOf [name] = .plain then return own
  let inner ← env.foldlM (fun entries (key, value) =>
    match Text.dropStart? (variableStart ++ name ++ "__") key with
    | some keys => do
      let path := splitKeys keys
      let v ← if value.isEmpty then pure (.str value) else variableValue (name :: path) value
      return putAt path v entries
    | none => return entries) ([] : List (String × Value))
  match own with
  | some (.map entries) => return some (Value.merge mergeDepth (.map entries) (.map inner))
  | some .null => return none
  | some v => return some v
  | none => return if inner.isEmpty then none else some (.map inner)

/-- The entries of a map with the names of the given fields for keys that differ from them only in
case. -/
def withFieldNames (names : List String) (entries : List (String × Value)) :
    List (String × Value) :=
  Entries.ofList (entries.map fun (k, v) => ((names.find? (· == Text.lower k)).getD k, v))

/-- The value of a field whose groups have keys of their own, which may be written in either
case. -/
def withGroupKeys (name : String) (v : Value) : Value :=
  match name, v with
  | "logging", .map entries =>
    .map ((withFieldNames ["level", "format", "file"] entries).map fun (k, v) =>
      match k, v with
      | "file", .map fields => (k, .map (withFieldNames ["enabled", "path"] fields))
      | _, _ => (k, v))
  | _, _ => v

/-- What the environment says about the fields, in their order. The names of variables may be
written in either case. -/
def fromEnvironment (env : Environment) : Except Fault (List (String × Value)) := do
  let env := Entries.ofList (env.map fun (k, v) => (Text.lower k, v))
  let fields ← fieldNames.mapM fun name => do
    return (← environmentField env name).map fun v => (name, withGroupKeys name v)
  return fields.filterMap id

/-- Replaces the references of a text, `$` and a name in braces, by the values of variables; the
first unknown name is the error. `skip` is how many characters belong to the reference before. -/
def substituteFrom (env : Environment) : (skip : Nat) → List Char → Except String (List Char)
  | _, [] => .ok []
  | skip + 1, _ :: cs => substituteFrom env skip cs
  | 0, c :: cs =>
    let name := (cs.drop 1).takeWhile (· ≠ '\x7d')
    let closed := (cs.drop (1 + name.length)).head? = some '\x7d'
    if c = '$' && cs.head? = some '\x7b' && !name.isEmpty && closed then
      match Entries.get? (String.ofList name) env with
      | none => .error (String.ofList name)
      | some value => do
        return value.toList ++ (← substituteFrom env (name.length + 2) cs)
    else do return c :: (← substituteFrom env 0 cs)

def substitute (env : Environment) (text : String) : Except Fault String :=
  match substituteFrom env 0 text.toList with
  | .ok cs => .ok (String.ofList cs)
  | .error name => .error (.invalidValue s!"Environment variable {name} not found")

end ChatEngine.Config
