import ChatEngine.Config.File
import ChatEngine.Simulation.Description
import ChatEngine.Simulation.Report
import ChatEngine.Simulation.Session.Configuring
import ChatEngine.Slack.Services

/-!
# Sessions with a Slack connection

Sessions with a connection to Slack, whose answers are described step by step.
-/
namespace ChatEngine.Simulation

open ChatEngine.Value

/-- Slack as a description gives it. -/
structure SlackSide where
  clock : Float := 0.0
  reply : Value := .null
  early : List Value := []
  failing : List String := []
  requests : List Slack.Request := []
  socket : List (List String) := []

instance : Clocked SlackSide := ⟨SlackSide.clock⟩

namespace SlackSide

def call (r : Slack.Request) : Effect SlackSide Slack.Reply := do
  modify fun s => { s with requests := r :: s.requests }
  let reply := (← get).reply
  if let some code := reply.textAt? "api_error" then return .refused code
  if let some fault := reply.field? "raise" then throw (Description.fault fault)
  match r with
  | .authenticate =>
    modify fun s => { s with clock := s.clock + (reply.at_ "takes").asFloat }
    return .answer (reply.at_ "data")
  | _ => return .answer reply

def note (operation : List String) : Effect SlackSide Unit :=
  Effect.change fun s => { s with socket := operation :: s.socket }

def platform : Slack.Platform SlackSide where
  call := call
  openSocket token appToken := do
    note ["open", token, appToken]
    note ["connect"]
    if (← get).failing.contains "connect" then throw (.runtime "socket refused")
    return (← get).early
  closeSocket := do
    note ["close"]
    if (← get).failing.contains "close" then throw (.runtime "socket stuck")
  wait _ := pure ()

end SlackSide

namespace Report

def event : Event → Value
  | .message e => .map
    [("event", .str "message"), ("kind", .str e.kind.text), ("id", .str e.msgRef.text),
     ("original", .str e.originRef.text), ("text", .ofOption e.text),
     ("subtype", .ofOption e.subtype)]
  | .connected identity count => .map
    [("event", .str "connected"), ("user_id", .ofOption identity.userId),
     ("user_name", .ofOption identity.userName), ("count", .int count)]
  | .latency ms => .map [("event", .str "latency"), ("ms", float ms)]
  | .hello => .map [("event", .str "HelloEvent")]
  | .termination => .map [("event", .str "TerminationEvent")]
  | .invalidAuth => .map [("event", .str "InvalidAuthEvent")]
  | .transportError .. => .map [("event", .str "RTMErrorEvent")]
  | .unknown name => .map [("event", .str name)]

def request (r : Slack.Request) : Value := .map (("method", .str r.method) :: r.arguments)

end Report

namespace Session

open Slack (Connection)

def connectionStep (x : Value) : Effect (Connection SlackSide) Value := do
  let p := SlackSide.platform
  let driver := Connection.driver p
  let a := x.at_ "args"
  let done : Value := .null
  match x.textAt "do" with
  | "connect" => Connection.connect p; return done
  | "disconnect" => Connection.disconnect p; return done
  | "message" => Connection.receive ((x.field? "payload").getD (.map [])); return done
  | "events" => return .list ((← Effect.lift Connection.readStream).map Report.event)
  | "send_message" =>
    let id ← driver.send
      { channel := a.textAt "channel_id", text := a.textAt "text", thread := a.textAt? "thread_ts"
        broadcast := a.boolAt "broadcast", blocks := Description.blocks? a "blocks" }
    return .str id.text
  | "update_message" =>
    let id ← driver.update (Description.messageId (a.at_ "message_id")) (a.textAt "text")
      (Description.blocks? a "blocks")
    return .str id.text
  | "delete_message" => driver.delete (Description.messageId (a.at_ "message_id")); return done
  | "send_ephemeral" =>
    driver.whisper
      { channel := a.textAt "channel_id", userId := a.textAt "user_id", text := a.textAt "text"
        thread := a.textAt? "thread_ts", blocks := Description.blocks? a "blocks" }
    return done
  | "send_new_message" =>
    return .str (← driver.sender (a.textAt "text") (a.textAt "channel_id")).text
  | "add_reaction" =>
    Connection.reactor p (a.textAt "name") (Description.messageId (a.at_ "item"))
    return done
  | "upload" => Connection.uploader p (Description.upload a); return done
  | _ => return Report.profile (← Connection.directory p (a.textAt "user_id"))

def connection (v : Value) : Value :=
  match Config.fromValue [] ((v.field? "config").getD (.map [])) with
  | .error e => Report.loadError e
  | .ok config =>
    match Connection.create? config ({} : SlackSide) with
    | .error e => Report.fault e.fault
    | .ok start =>
      let step (acc : Connection SlackSide × List Value) (x : Value) :
          Connection SlackSide × List Value :=
        let (c, out) := acc
        let world : SlackSide :=
          { clock := c.world.clock, reply := x.at_ "reply", early := x.itemsAt "early"
            failing := x.textsAt "socket_fail" }
        let (result, c) := (connectionStep x).run { c with world, log := [] }
        (c, .map
          [("result", Report.result result),
           ("api", .list (c.world.requests.reverse.map Report.request)),
           ("socket", .list (c.world.socket.reverse.map Report.names)),
           ("connected", .bool c.connected),
           ("logs", Report.names (c.log.reverse.map (·.event)))] :: out)
      .list ((v.itemsAt "steps").foldl step (start, [])).2.reverse

end Session

end ChatEngine.Simulation
