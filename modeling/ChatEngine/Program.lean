import ChatEngine.Bot.Builder
import ChatEngine.Bot.Run
import ChatEngine.Bundled.Monday
import ChatEngine.Bundled.Versioner
import ChatEngine.CommandLine.Basic
import ChatEngine.Config.File
import ChatEngine.Redaction.Basic

/-!
# Runs of the program

A run of the program: it reads the configuration, sets logging up, assembles a bot with the bundled
plugins and runs it. Whatever fails is logged, and the exit code says whether all went well.
-/
namespace ChatEngine

/-- A set-up of logging. Before the configuration is read it does not say whether a log file is
written. -/
structure LoggingSetup where
  level : String
  format : String
  file : Option Bool := none
  deriving DecidableEq, Repr

def Config.LoadError.toFault : Config.LoadError → Fault
  | .fault f => f
  | .problems ps => .invalidValue
      (Text.join "; " (ps.map fun p => p.place ++ ": " ++ p.issue.message))

/-- What the program is given besides its arguments. -/
structure Outfit (σ : Type) where
  surroundings : Surroundings σ
  karma : Made σ
  choosePicture : Effect (Host σ) Nat

/-- The program as it runs. -/
structure Program (σ : Type) where
  host : Host σ
  /-- The set-ups of logging, latest first. -/
  setups : List LoggingSetup := []

namespace Program

variable {σ : Type}

def setUp (setup : LoggingSetup) : StateM (Program σ) Unit :=
  modify fun p => { p with setups := setup :: p.setups }

def record (level : LogLevel) (event : String) (fields : List (String × Value) := []) :
    StateM (Program σ) Unit :=
  modify fun p => { p with host := { p.host with log := ⟨level, event, fields⟩ :: p.host.log } }

/-- The bundled plugins in assembly: the Monday plugin only if it is configured. -/
def assemble (outfit : Outfit σ) (name : BotName) (config : BotConfig) : BotBuilder σ :=
  let builder : BotBuilder σ := { name, config }
  let builder := builder.withPlugin (Versioner.plugin name.text engineVersion)
  let builder := builder.withFactory fun _ => .ok outfit.karma
  if Entries.has Monday.pluginName config.plugins then
    builder.withConfigurable Monday.pluginName fun fields =>
      (Monday.plugin fields outfit.choosePicture).map fun plugin => { plugin }
  else builder

def missingPath : Fault := ⟨.missingAttribute, "'list' object has no attribute 'exists'"⟩

def readConfiguration (env : Config.Environment) (contents : Config.FileContents) :
    (path : Option String) → Except Fault BotConfig
  | none => .error missingPath
  | some path => (Config.load env path contents).mapError Config.LoadError.toFault

/-- Reads the configuration; the command line may turn debugging on. -/
def configure (settings : CommandLine.Settings) (env : Config.Environment)
    (contents : Config.FileContents) : Effect (Program σ) BotConfig := do
  let config ← Effect.ofResult (readConfiguration env contents settings.config)
  let config := { config with debug := config.debug || settings.debug }
  Effect.lift <| setUp
    { level := if config.debug then "DEBUG" else config.logging.level
      format := (settings.format.format?.map LogFormat.text).getD config.logging.format
      file := some config.logging.file.enabled }
  Effect.lift <| record .info "configuration_loaded"
    [("token", .str (Redaction.maskValue "token" config.token))]
  return config

/-- Runs the bot of a configuration, or only assembles it; the answer is the exit code. -/
def serve [Clocked σ] (outfit : Outfit σ) (settings : CommandLine.Settings) (config : BotConfig)
    (stream : List StreamStep) : Effect (Program σ) Nat := do
  let builder := assemble outfit settings.name config
  Effect.change fun p => { p with host := { p.host with log := builder.log ++ p.host.log } }
  let _ ← Effect.ofResult (config.socketToken.mapError ConfigurationError.fault)
  let bot ← Effect.of fun p => (builder.build outfit.surroundings engineVersion p.host, p)
  if settings.dryRun then
    Effect.lift <| record .info "dry_run_mode_config_valid"
      [("plugins", .list (builder.plugins.map fun p => .str p.name))]
    return 0
  let (result, bot) := bot.run { stream, pace := .held }
  Effect.change fun p => { p with host := bot.host }
  Effect.ofResult result
  if bot.invalidAuth then
    Effect.lift <| record .error "credentials_rejected"
    return 1
  return 0

def faultEvent (kind : FaultKind) : String :=
  match kind with
  | .fileNotFound => "configuration_file_not_found"
  | .configuration | .invalidValue | .partitionCount | .schedule | .malformedEvent | .settings =>
    "configuration_invalid"
  | _ => "fatal_error"

/-- Runs the program; the answer is its exit code. `contents` is what is found at the path of the
configuration file. -/
def run [Clocked σ] (outfit : Outfit σ) (settings : CommandLine.Settings)
    (env : Config.Environment) (contents : Config.FileContents) (stream : List StreamStep) :
    StateM (Program σ) Nat := do
  let format := settings.format.format?.getD .console
  setUp { level := if settings.debug then "DEBUG" else "INFO", format := format.text }
  record .info "starting_slackscot"
    [("name", BotName.value settings.name), ("version", .str engineVersion),
     ("config_path", .str (settings.config.getD "[]"))]
  let served := do serve outfit settings (← configure settings env contents) stream
  match ← served.attempt with
  | .ok code => return code
  | .error fault =>
    record .error (faultEvent fault.kind) [("error", .str fault.text)]
    return 1

end Program

end ChatEngine
