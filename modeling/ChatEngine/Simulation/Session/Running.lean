import ChatEngine.Bot.Run
import ChatEngine.Config.File
import ChatEngine.Simulation.Session.Configuring
import ChatEngine.Simulation.Session.Plugins

/-!
# Sessions with bots

Sessions with whole bots: assembling one, and running it on streams of events.
-/
namespace ChatEngine.Simulation.Session

open ChatEngine.Value

def streamStep (v : Value) : StreamStep :=
  match v.textAt "type" with
  | "message" => .event (.message (MessageEvent.ofPayload ((v.field? "payload").getD (.map []))))
  | "hello" => .event .hello
  | "connected" =>
    .event <| .connected
      ⟨v.textField "user_id" (some ""), v.textField "user_name" (some "")⟩ (v.intAt "count" 1)
  | "latency" => .event (.latency (v.at_ "ms").asFloat)
  | "rtm_error" => .event (.transportError (v.intAt "code" 0) (v.textAt "message"))
  | "invalid_auth" => .event .invalidAuth
  | "termination" => .event .termination
  | "raise" => .broken (v.textAt "message")
  | "stop" => .request .stop
  | "signal" => .request (.signal "SIGTERM")
  | "run_again" => .request .run
  | _ => .event (.unknown "object")

/-- What the workspace gives to a bot: the services that the description asks for. -/
def surroundings (v : Value) : Surroundings Workspace where
  driver := Workspace.driver
  connect := Workspace.connect
  disconnect := Workspace.disconnect
  users := if v.has "users" then some Workspace.directory else none
  reactor := if v.boolAt "reactor" then some Workspace.reactor else none
  uploader := if v.boolAt "uploader" then some Workspace.uploader else none
  sender := if v.boolAt "sender" then some Workspace.sayer else none
  handleSignals := v.boolAt "handle_signals"

def botWorkspace (v : Value) : Workspace :=
  { Description.workspace v with
    connectFails := v.boolAt "connect_fail", disconnectFails := v.boolAt "disconnect_fail" }

def botConfig (v : Value) : Except Config.LoadError BotConfig :=
  Config.fromValue [] (.map (Entries.update [("token", .str "t")] (v.entriesAt "config")))

def closer (v : Value) : Closer Workspace :=
  recordingCloser (if v.boolAt "async" then "AsyncCloser" else "Closer") (v.textAt "name")
    (v.boolAt "fail")

def raised : Except Fault Unit → Value := Report.outcome

def runOnce (v : Value) (bot : Bot Workspace) (events : Value) : Value × Bot Workspace :=
  let world := { bot.host.world with calls := [], closed := [] }
  let bot := { bot with host := { bot.host with world, log := [] } }
  let script : RunScript :=
    { stream := events.items.map streamStep
      pace := if v.boolAt "settle" true then .settled else .held }
  let (result, bot) := bot.run script
  let world := bot.host.world
  let identity := (bot.identity.map fun i =>
    Value.list [.ofOption i.userId, .ofOption i.userName, .str i.mention]).getD .null
  (.map <|
    [("calls", Report.calls world), ("tracker", Report.tracker bot.tracker),
     ("raised", raised result), ("closed", Report.names world.closed.reverse),
     ("invalid_auth", .bool bot.invalidAuth), ("running", .bool bot.running),
     ("connects", Report.number world.connects), ("disconnects", Report.number world.disconnects),
     ("identity", identity), ("metrics", Report.metrics bot.host)] ++ logsField v bot.host.log,
   bot)

def runAll (v : Value) (bot : Bot Workspace) : List Value × Bot Workspace :=
  (v.itemsAt "runs").foldl (fun (reports, bot) events =>
    let (report, bot) := runOnce v bot events
    (reports ++ [report], bot)) ([], bot)

def servicesReport (bot : Bot Workspace) (p : Plugin Workspace) : Value :=
  let began := bot.registry.isSealed
  let name (present : Bool) (kind : String) : Value :=
    .str (if began && present then kind else "NoneType")
  let s := bot.services p
  .map
    [("plugin", .str p.name),
     ("user_info_finder", name s.userFinder.isSome "MeteredUserInfoFinder"),
     ("logger", name s.logger.isSome "SLogger"),
     ("emoji_reactor", name s.reactor.isSome "MeteredEmojiReactor"),
     ("file_uploader", name s.uploader.isSome "OptionsFileUploader"),
     ("real_time_sender", name s.sender.isSome
       (if bot.given.sender.isSome then "Sender" else "DriverRealTimeSender"))]

def addMade (bot : Bot Workspace) (made : List (Made Workspace)) : Except Fault (Bot Workspace) :=
  made.foldlM (fun b m => do
    let b ← (b.register m.plugin).mapError RegistrationError.fault
    return m.closer.toList.foldl Bot.addCloser b) bot

def bot (v : Value) : Value :=
  match botConfig v with
  | .error e => Report.loadError e
  | .ok config =>
    let report : Except Fault Value := do
      let (made, world) ← Description.makePlugins (v.itemsAt "plugins") (botWorkspace v)
      let bot ← Bot.create? (v.textAt "name" "youppi") config (surroundings v)
        (v.textAt "version" engineVersion) { world }
      let bot ← addMade bot made
      let bot := ((v.itemsAt "closers").map closer).foldl Bot.addCloser bot
      let (reports, bot) := runAll v bot
      let late := (v.field? "register_after").map fun plan =>
        let made := ((Description.pluginPlan plan).make bot.host.world).1
        ("register_after", Report.outcome (made.bind fun m =>
          ((bot.register m.plugin).map fun _ => ()).mapError RegistrationError.fault))
      let exported := if v.boolAt "prometheus" then
        [("prometheus", Report.exported bot.host.metrics bot.host.world.clock)] else []
      return .map <|
        [("runs", .list reports),
         ("services", .list (bot.registry.plugins.map (servicesReport bot))),
         ("partitions", (bot.router.map fun r => Report.number r.partitionCount).getD .null)]
        ++ late.toList ++ exported
    Report.result report

/-- A bot in assembly, the workspace it will run in, and the configurations given to factories. -/
structure Assembly where
  builder : BotBuilder Workspace
  world : Workspace
  received : List Value := []

def factoryResult (x : Value) (w : Workspace) : Except Fault (Made Workspace) × Workspace :=
  match x.field? "raise" with
  | some fault => (.error (Description.fault fault), w)
  | none =>
    let (made, w) := (Description.pluginPlan (x.at_ "spec")).make w
    (made.map fun m => match x.field? "with_closer" with
      | some c => { m with closer := some (closer c) }
      | none => m, w)

def assembleStep (a : Assembly) (x : Value) : Except Fault Assembly := do
  let broken := a.builder.failure.isSome
  match x.textAt "do" with
  | "plugin" =>
    let (made, world) := (Description.pluginPlan (x.at_ "spec")).make a.world
    return { a with builder := a.builder.withPlugin (← made).plugin, world }
  | "factory" =>
    let (made, world) := if broken then (.error (.runtime ""), a.world) else factoryResult x a.world
    return { a with builder := a.builder.withFactory fun _ => made, world }
  | "configurable" =>
    let name := x.textAt "name"
    let config := (a.builder.config.plugin name).toOption
    let (made, world) := match broken, config with
      | false, some config =>
        if x.boolAt "ohMonday" then (PluginPlan.monday config [0]).make a.world
        else factoryResult x a.world
      | _, _ => (.error (.runtime ""), a.world)
    let received := if broken then [] else (config.map Value.map).toList
    return { builder := a.builder.withConfigurable name fun _ => made
             world, received := a.received ++ received }
  | _ => return { a with builder := a.builder.withCloser (closer (x.at_ "closer")) }

def builder (v : Value) : Value :=
  match botConfig v with
  | .error e => Report.loadError e
  | .ok config =>
    let report : Except Fault Value := do
      let start : Assembly :=
        { builder := { name := v.textAt "name" "youppi", config }, world := botWorkspace v }
      let (a, steps) ← (v.itemsAt "steps").foldlM (fun ((a, steps) : Assembly × List Value) x => do
        let a ← assembleStep a x
        let error := (a.builder.failure.map Report.fault).getD .null
        return (a, steps ++ [.map [("plugins", Report.names (a.builder.plugins.map (·.name))),
          ("error", error)]])) (start, [])
      let built := a.builder.build (surroundings v) engineVersion { world := a.world }
      let runs := match built with
        | .ok bot => if v.has "runs" then [("runs", Value.list (runAll v bot).1)] else []
        | .error _ => []
      return .map <|
        [("steps", .list steps), ("received", .list a.received),
         ("build", Report.result (built.map fun b =>
           Report.names (b.registry.plugins.map (·.name))))] ++ runs
    Report.result report

end ChatEngine.Simulation.Session
