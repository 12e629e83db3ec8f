import ChatEngine.Config.File
import ChatEngine.Simulation.Report
import ChatEngine.Value.Field

/-!
# Sessions with configurations

Sessions with configurations: reading them from values, from the environment and from files.
-/
namespace ChatEngine.Simulation.Report

def shownKey : Value → String
  | .bool b => if b then "true" else "false"
  | .moment m => m.text
  | v => v.text

mutual

/-- The value with null for every float that is not finite and with texts for all keys. -/
def shown : Value → Value
  | .float x => if (Decimal.truncate? x).isSome then .float x else .null
  | .list items | .tuple items => .list (shownItems items)
  | .map entries => .map (shownEntries entries)
  | .table entries => .map (Entries.ofList (shownPairs entries))
  | v => v

def shownItems : List Value → List Value
  | [] => []
  | v :: vs => shown v :: shownItems vs

def shownEntries : List (String × Value) → List (String × Value)
  | [] => []
  | (k, v) :: es => (k, shown v) :: shownEntries es

def shownPairs : List (Value × Value) → List (String × Value)
  | [] => []
  | (k, v) :: es => (shownKey k, shown v) :: shownPairs es

end

def config (c : BotConfig) : Value := .map
  [("token", .str c.token), ("app_token", .ofOption c.appToken), ("debug", .bool c.debug),
   ("response_cache_size", .int c.responseCacheSize), ("time_location", .str c.timeLocation),
   ("threaded_replies", .bool c.threadedReplies),
   ("broadcast_threaded_replies", .bool c.broadcastThreadedReplies),
   ("user_info_cache_size", .int c.userInfoCacheSize),
   ("message_partition_count", .int c.messagePartitionCount),
   ("message_queue_buffer_size", .int c.messageQueueBufferSize),
   ("plugins", .map (c.plugins.map fun (name, fields) => (name, .map (shownEntries fields)))),
   ("logging", .map [("level", .str c.logging.level), ("format", .str c.logging.format),
     ("file", .map [("enabled", .bool c.logging.file.enabled),
       ("path", .str c.logging.file.path)])])]

def loadError : Config.LoadError → Value
  | .fault f => fault f
  | .problems ps => .map
    [("error", .str "ValidationError"),
     ("errors", .list (ps.map fun p => .map
       [("loc", .str p.place), ("type", .str p.issue.code), ("msg", .str p.issue.message)]))]

end ChatEngine.Simulation.Report

namespace ChatEngine.Simulation.Session

open ChatEngine.Value

def configReport (v : Value) (read : Except Config.LoadError BotConfig) : Value :=
  match read with
  | .error e => Report.loadError e
  | .ok c =>
    let zone := Config.zoneName c.timeLocation
    let plugin (name : String) : Value :=
      Report.result ((c.plugin name).map Value.map |>.mapError ConfigurationError.fault)
    let override (location : String) : Value :=
      Report.result <| (Config.zoneName location).map fun z => .str (z.getD "None")
    .map <| [("config", Report.config c), ("zone", Report.result (zone.map Value.ofOption))]
      ++ ((v.textAt? "plugin").map fun name => ("plugin", plugin name)).toList
      ++ ((v.textAt? "override_location").map fun l => ("override", override l)).toList

def configuration (v : Value) : Value :=
  let given := if v.has "data" then v.at_ "data" else (v.field? "kwargs").getD (.map [])
  configReport v (Config.fromValue (v.textEntriesAt "env") given)

def configurationFile (v : Value) : Value :=
  configReport v (Config.load (v.textEntriesAt "env") "\x7bpath\x7d"
    (((v.textAt? "text").map Config.FileContents.text).getD .missing))

end ChatEngine.Simulation.Session
