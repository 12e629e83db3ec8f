import ChatEngine.Program
import ChatEngine.Simulation.Session.Running

/-!
# Sessions with the whole program

Sessions with the whole program: its command line, and its run against a simulated workspace.
-/
namespace ChatEngine.Simulation.Report

def formatChoice : CommandLine.FormatChoice → Value
  | .unset => .null
  | .nothing => .list []
  | .chosen format => .str format.text

def launchSettings (s : CommandLine.Settings) : Value := .map
  [("config", .str (s.config.getD "[]")), ("debug", .bool s.debug), ("dry_run", .bool s.dryRun),
   ("format", formatChoice s.format), ("name", BotName.value s.name)]

def exitName : String := "SystemExit"

def exit (code : Nat) : Value :=
  .map [("error", .str exitName), ("message", .str (Decimal.intText code))]

def loggingSetup (s : LoggingSetup) : Value := .map <|
  [("level", .str s.level), ("log_format", .str s.format)]
    ++ (s.file.map fun b => ("file_enabled", Value.str (if b then "True" else "False"))).toList

def briefEntry (e : LogEntry) : Value := .map <|
  [("event", .str e.event), ("log_level", .str e.level.text)]
    ++ e.fields.filter fun f => ["plugins", "token", "name"].contains f.1

end ChatEngine.Simulation.Report

namespace ChatEngine.Simulation.Session

open ChatEngine.Value

def commandLine (v : Value) : Value :=
  match CommandLine.read (v.textsAt "argv") with
  | .ok settings => Report.launchSettings settings
  | .error ending => Report.exit ending.exitCode

def outfit (w : Workspace) : Outfit Workspace × Workspace :=
  let (store, w) := w.addStore ⟨{ name := "karma" }, []⟩
  let (chooser, w) := w.addChooser
  ({ surroundings := {
       driver := Workspace.driver
       connect := Workspace.connect
       disconnect := Workspace.disconnect
       users := some Workspace.directory
       reactor := some Workspace.reactor
       uploader := some Workspace.uploader
       sender := some Workspace.sayer
       handleSignals := true }
     karma := ⟨Karma.plugin (Workspace.storeOps store), some (karmaCloser store)⟩
     choosePicture := Workspace.choose chooser [0] }, w)

/-- What stands in arguments for the path of the configuration file. -/
def pathMark : String := "\x7bconfig\x7d"

def configurationPath : String := "/simulation/config.yaml"

def rootDirectories : List String :=
  ["bin", "boot", "dev", "etc", "home", "lib", "media", "mnt", "opt", "proc", "root", "run", "sbin",
   "srv", "sys", "tmp", "usr", "var"]

/-- What is found at a path: the configuration file if it is that of the description, and else
nothing but the usual directories and the empty device. -/
def contentsAt (text : Option String) (path : String) : Config.FileContents :=
  let parts := (Upload.pathParts path).2
  let isAbsolute := (Upload.pathParts path).1
  if parts.all (· == "..") then .directory
  else if parts.any (255 < ·.utf8ByteSize) || 4096 ≤ path.utf8ByteSize then .nameTooLong
  else if !isAbsolute then .missing
  else if parts == (Upload.pathParts configurationPath).2 then
    (text.map Config.FileContents.text).getD .missing
  else match parts with
    | [name] => if rootDirectories.contains name then .directory else .missing
    | ["dev", "null"] => .text ""
    | _ => .missing

def program (v : Value) : Value :=
  let report (code : Value) (p : Program Workspace) : Value := .map
    [("exit", code), ("logging", .list (p.setups.reverse.map Report.loggingSetup)),
     ("calls", Report.calls p.host.world),
     ("logs", .list ((p.host.log.atLeast .info).map Report.briefEntry))]
  let (outfit, world) := outfit (Description.workspace v)
  let start : Program Workspace := { host := { world } }
  match CommandLine.read ((v.textsAt "argv").map fun a => a.replace pathMark configurationPath) with
  | .error ending =>
    report (.str (Report.exitName ++ " " ++ Decimal.intText ending.exitCode)) start
  | .ok settings =>
    let contents := contentsAt (v.textAt? "text") (settings.config.getD "")
    let (code, p) := (Program.run outfit settings (v.textEntriesAt "env") contents
      ((v.itemsAt "events").map streamStep)).run start
    report (Report.number code) p

end ChatEngine.Simulation.Session
