import ChatEngine.Config.Environment
import ChatEngine.Yaml.Node.Value

/-!
# Configuration files

Configuration files: YAML or JSON texts with references to the environment.
-/
namespace ChatEngine.Config

/-- Why there is no configuration: a fault, or values that do not fit. -/
inductive LoadError where
  | fault (f : Fault)
  | problems (ps : List Problem)

def zoneDirectory : String := "/usr/local/lib/python3.11/site-packages/tzdata/zoneinfo/"

def zoneFault (location : String) : Calendar.ZoneProblem → Fault
  | .unknown => (ConfigurationError.unknownZone location).fault
  | .region => .isDirectory (zoneDirectory ++ location)
  | .tooLong => .nameTooLong (zoneDirectory ++ location)

/-- The time zone of a configuration by name; the system's own one has none. -/
def zoneName (location : String) : Except Fault (Option String) :=
  if location = localLocation then .ok none
  else ((Calendar.findZone location).map fun _ => some location).mapError (zoneFault location)

/-- Checks that a location does not lead astray: one that is merely unknown is an issue like any
other, but a region or a name that is too long ends the reading. -/
def checkLocation (entries : List (String × Value)) : Except Fault Unit :=
  match Entries.get? "time_location" entries with
  | some (.str location) => match Calendar.findZone location with
    | .error .region => .error (zoneFault location .region)
    | .error .tooLong => .error (zoneFault location .tooLong)
    | _ => .ok ()
  | _ => .ok ()

def fromValue (env : Environment) (v : Value) : Except LoadError BotConfig := do
  match v with
  | .map given =>
    let surroundings ← (fromEnvironment env).mapError .fault
    let entries := combined surroundings given
    (checkLocation entries).mapError .fault
    (readFields entries).mapError .problems
  | .table _ => throw (.fault ⟨.wrongType, "keywords must be strings"⟩)
  | _ => throw (.problems [⟨[], .notGroup "BotConfig"⟩])

/-- What is found at a path. -/
inductive FileContents where
  | missing
  | directory
  /-- A part of the path is longer than the name of a file may be. -/
  | nameTooLong
  | text (s : String)
  deriving DecidableEq, Repr

/-- The text with a line feed for every line end of two characters and for every carriage
return. -/
def withLineFeeds : List Char → List Char
  | [] => []
  | '\r' :: '\n' :: cs => '\n' :: withLineFeeds cs
  | '\r' :: cs => '\n' :: withLineFeeds cs
  | c :: cs => c :: withLineFeeds cs

def fileText (path : String) : FileContents → Except Fault String
  | .missing => .error ⟨.fileNotFound, s!"Configuration file not found: {path}"⟩
  | .directory => .error (.isDirectory path)
  | .nameTooLong => .error (.nameTooLong path)
  | .text s => .ok (String.ofList (withLineFeeds s.toList))

def load (env : Environment) (path : String) (contents : FileContents) :
    Except LoadError BotConfig := do
  let text ← (fileText path contents).mapError .fault
  let text ← (substitute env text).mapError .fault
  let v ← (Yaml.read text).mapError fun e => .fault e.fault
  let v := if v.isTruthy then v else .map []
  if v.pairs?.isSome then fromValue env v
  else throw (.fault (.invalidValue s!"Configuration file {path} must hold a mapping"))

end ChatEngine.Config
