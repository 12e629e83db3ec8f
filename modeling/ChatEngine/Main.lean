import ChatEngine.Json.Reader
import ChatEngine.Json.Writer
import ChatEngine.Simulation.Session.Launching

/-!
# The program at the terminal

The program at the terminal. The bot runs against a simulated workspace: the events of its stream
are read from standard input, one JSON object a line; the calls that the workspace receives are
printed in the same way, and the log goes to standard error.
-/
namespace ChatEngine

/-- The variables of the environment; none where they cannot be read. -/
def readEnvironment : IO Config.Environment := do
  let text ← try IO.FS.readFile "/proc/self/environ" catch _ => pure ""
  return (Text.split '\x00' text).filterMap fun entry =>
    match Text.split '=' entry with
    | name :: value => if value.isEmpty then none else some (name, Text.join "=" value)
    | [] => none

def readContents (path : String) : IO Config.FileContents := do
  try return .text (← IO.FS.readFile path) catch _ => return .missing

partial def readValues (input : IO.FS.Stream) (values : List Value := []) : IO (List Value) := do
  let line ← input.getLine
  if line.isEmpty then return values.reverse
  readValues input ((Json.read? line).toList ++ values)

def logLines (p : Program Simulation.Workspace) : List String :=
  match p.setups.head?.map fun s =>
    LogPipeline.create s.level s.format loggedService engineVersion with
  | some (.ok pipeline) => p.host.log.reverse.filterMap fun e =>
    match pipeline.emit e.level (.str e.event) [] e.fields with
    | .ok (some entry) => some (pipeline.line entry)
    | _ => none
  | _ => []

/-- Runs the bot as the settings say; the answer is the exit code. -/
def launch (settings : CommandLine.Settings) : IO UInt32 := do
  let env ← readEnvironment
  let contents ← readContents (settings.config.getD "")
  let events ← if settings.dryRun then pure [] else readValues (← IO.getStdin)
  let (outfit, world) := Simulation.Session.outfit {}
  let (code, p) := (Program.run outfit settings env contents
    (events.map Simulation.Session.streamStep)).run { host := { world } }
  for line in logLines p do IO.eprintln line
  for call in (Simulation.Report.calls p.host.world).items do IO.println (Json.form call)
  return UInt32.ofNat code

end ChatEngine

def main (args : List String) : IO UInt32 := do
  match ChatEngine.CommandLine.read args with
  | .ok settings => ChatEngine.launch settings
  | .error ending =>
    match ending with
    | .help => IO.println ChatEngine.CommandLine.usage
    | .version => IO.println (ChatEngine.loggedService ++ " " ++ ChatEngine.engineVersion)
    | .misuse cause =>
      IO.eprintln ChatEngine.CommandLine.usage
      IO.eprintln (ChatEngine.loggedService ++ ": error: " ++ cause.message)
    return UInt32.ofNat ending.exitCode
