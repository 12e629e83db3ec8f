import ChatEngine.Simulation.Description
import ChatEngine.Simulation.Report

/-!
# Sessions with plugins

Sessions with plugins: registering them, processing messages with them, and running their
scheduled actions.
-/
namespace ChatEngine.Simulation.Session

open ChatEngine.Value

def actionReport (r : RegisteredAction Workspace) : Value := .map
  [("id", .str r.id.text), ("usage", .str r.action.usage),
   ("description", .str r.action.description), ("hidden", .bool r.action.hidden),
   ("shown", .str (r.plugin.shownUsage r.action.usage))]

def scheduledReport (r : RegisteredSchedule Workspace) : Value := .map
  [("plugin", .str r.plugin.name), ("index", Report.number r.index),
   ("schedule", .str r.action.wording), ("description", .str r.action.description),
   ("hidden", .bool r.action.hidden)]

def helpReport (r : PluginRegistry Workspace) (m : IncomingMessage) : Value :=
  match (r.commands.getLast?).map (·.action) with
  | none => .null
  | some action => match action.isMatch m with
    | .ok true =>
      let (answer, _) := (action.answer {} m).run { world := {} }
      Report.result (answer.map fun a => (a.map fun a => Value.str a.text).getD .null)
    | _ => .str "no match"

def registry (v : Value) : Value :=
  let start : PluginRegistry Workspace :=
    { botName := v.textAt "bot", version := v.textAt "version"
      location := v.textAt "location" "Local" }
  let step (acc : PluginRegistry Workspace × Workspace × List Value) (s : Value) :
      PluginRegistry Workspace × Workspace × List Value :=
    let (r, w, out) := acc
    let (result, r, w) : Value × PluginRegistry Workspace × Workspace :=
      match s.field? "register" with
      | some plan =>
        let (made, w) := (Description.pluginPlan plan).make w
        match made.bind fun m => (r.register m.plugin).mapError RegistrationError.fault with
        | .error f => (Report.fault f, r, w)
        | .ok r => (.null, r, w)
      | none =>
        let m := Description.messageOf (s.textAt "text" "help")
        let result := match s.textAt "do" with
          | "seal" => .null
          | "commands" => .list (r.close.commands.map actionReport)
          | "hear" => .list (r.close.hearActions.map actionReport)
          | "scheduled" => .list (r.close.schedules.map scheduledReport)
          | "help" => helpReport r.close m
          | _ => .list (r.close.commands.map fun c =>
              ((c.prepare m).map fun view => Value.str view.normalizedText).getD .null)
        (result, r.close, w)
    (r, w, .map [("result", result), ("sealed", .bool r.isSealed),
      ("plugins", Report.names (r.plugins.map (·.name)))] :: out)
  let (_, _, out) := (v.itemsAt "steps").foldl step (start, {}, [])
  .list out.reverse

/-- The services that plugins get when messages are processed without a bot. -/
def plainServices (debug : Bool) (p : Plugin Workspace) : Services (Host Workspace) where
  userFinder := some (cachedFinder fun id => Host.outside (Workspace.directory id))
  logger := some { debug, context := [("plugin", .str p.name)] }
  reactor := some fun name i => Host.outside (Workspace.reactor name i)
  uploader := some fun params => Host.outside (Workspace.uploader params)
  sender := some Workspace.driver.outside.sender

/-- The log of a session, if the session asks for one. -/
def logsField (v : Value) (log : Log) : List (String × Value) :=
  match v.textAt? "logs" with
  | some level => [("logs", Report.logs log (Description.logLevel level))]
  | none => []

/-- A processor of messages in a session, and whose messages are the bot's own. -/
structure Processing where
  state : Processor.State Workspace
  identity : Option Identity

def Processing.onWorld (p : Processing) (f : Workspace → Workspace) : Processing :=
  { p with state := { p.state with host := { p.state.host with world := f p.state.host.world } } }

def replyReport (r : PendingReply) : Value := .map
  [("action", .str r.action.text), ("text", .str r.answer.text),
   ("blocks", Report.blocks r.answer.blocks), ("options", Report.settings r.answer.options),
   ("resolved", Report.options r.options)]

/-- One step: what it adds to the report, and what follows. -/
def processStep (processor : Option Identity → Processor Workspace) (p : Processing) (x : Value) :
    List (String × Value) × Processing :=
  match x.field? "event", x.field? "collect" with
  | some payload, _ =>
    let (result, state) :=
      (processor p.identity).process (MessageEvent.ofPayload payload) p.state
    match result with
    | .ok () => ([], { p with state })
    | .error f => ([("raised", .str f.kind.text)], { p with state })
  | none, some payload =>
    let dialog := (processor p.identity).dialog
    match dialog.incoming (MessageEvent.ofPayload payload) with
    | .ok (some m) =>
      let (replies, host) := dialog.replies m p.state.host
      ([("replies", .list (replies.map replyReport))], { p with state := { p.state with host } })
    | _ => ([("replies", .list [])], p)
  | none, none =>
    let host := p.state.host
    if x.has "identity" then ([], { p with identity := Description.identity (x.at_ "identity") })
    else if x.has "fail" then ([], p.onWorld fun w => { w with failing := x.textsAt "fail" })
    else if x.has "fail_store" then ([], p.onWorld fun w => w.failStores (x.textsAt "fail_store"))
    else if x.has "retimestamp" then
      ([], p.onWorld fun w => { w with retimestamp := x.boolAt "retimestamp" })
    else if x.has "advance" then ([], p.onWorld fun w => w.advance (x.at_ "advance").asFloat)
    else if x.has "metrics" then ([("metrics", Report.metrics host)], p)
    else ([("prometheus", Report.exported host.metrics host.world.clock)], p)

def process (v : Value) : Value :=
  let report : Except Fault Value := do
    let (made, world) ← Description.makePlugins (v.itemsAt "plugins") (Description.workspace v)
    let registry ← Description.registryOf made
    let registry := registry.close.inject (plainServices (v.boolAt "debug"))
    let defaults : ReplyDefaults :=
      { threaded := (v.at_ "defaults").boolAt "threaded"
        broadcast := (v.at_ "defaults").boolAt "broadcast" true }
    let processor (identity : Option Identity) : Processor Workspace :=
      { dialog := { commands := registry.commands, hearActions := registry.hearActions, identity }
        outbox := { driver := Workspace.driver.outside, defaults } }
    let capacity := v.intAt "capacity" 10
    let some tracker := ResponseTracker.create? capacity
      | throw (.worded .invalidValue (ResponseTracker.refusal capacity))
    let start : Processing :=
      { state := ⟨tracker, { world, profiles := profileCache 10 }⟩
        identity := if v.has "identity" then Description.identity (v.at_ "identity")
          else some ⟨"BOT", "youppi"⟩ }
    let step (acc : Processing × List Value) (x : Value) : Processing × List Value :=
      let p := acc.1.onWorld Workspace.clearCalls
      let p := { p with state := { p.state with host := { p.state.host with log := [] } } }
      let (more, p) := processStep processor p x
      (p, .map ([("calls", Report.calls p.state.host.world),
        ("tracker", Report.tracker p.state.tracker)]
          ++ logsField v p.state.host.log ++ more) :: acc.2)
    return .list ((v.itemsAt "steps").foldl step (start, [])).2.reverse
  Report.result report

def saying : Sender (Host Workspace) := fun text channel =>
  Host.outside (Workspace.sayer text channel)

def scheduler (v : Value) : Value :=
  let report : Except Fault Value := do
    let (made, world) ← Description.makePlugins (v.itemsAt "plugins") {}
    let registry ← Description.registryOf made
    let step (acc : Scheduler Workspace × Host Workspace × List Value) (x : Value) :
        Scheduler Workspace × Host Workspace × List Value :=
      let (s, h, out) := acc
      let h := { h with log := [], world := h.world.clearCalls }
      let (result, s, h) : Value × Scheduler Workspace × Host Workspace := match x.textAt "do" with
        | "start" =>
          let ((s, failure), h) := s.start h
          ((failure.map fun e => Report.fault e.fault).getD .null, s, h)
        | "shutdown" => (.null, s.shutdown, h)
        | "run" => match x.pick? "index" s.actions with
          | none => (Report.fault Fault.badIndex, s, h)
          | some entry =>
            (.null, s, (List.range (x.intAt "times" 1).toNat).foldl
              (fun h _ => (Scheduler.fire saying entry h).2) h)
        | _ => (.null, s, { h with world := { h.world with failing := x.textsAt "fail" } })
      (s, h, .map [("result", result), ("running", .bool s.running),
        ("calls", Report.calls h.world),
        ("jobs", .list (s.jobs.map fun j => Report.names [j.jobId, j.jobName])),
        ("logs", Report.logs h.log .info)] :: out)
    let start : Scheduler Workspace := { actions := registry.schedules }
    return .list ((v.itemsAt "steps").foldl step (start, { world }, [])).2.2.reverse
  Report.result report

end ChatEngine.Simulation.Session
