import ChatEngine.Simulation.Description
import ChatEngine.Simulation.Report

/-!
# Sessions with routing and look-ups

Sessions with what stands between the stream of messages and the plugins: the router, the tracker
of responses, and the cached directory of users.
-/
namespace ChatEngine.Simulation.Session

open ChatEngine.Value

def routerStep (r : Router) (result : Value) : Value := .map
  [("result", result), ("sizes", .list (r.queues.map fun q => Report.number q.length)),
   ("closed", .bool r.closed)]

def takeAll (r : Router) (i : Nat) : Value × Router :=
  let item : QueueItem → Value
    | .event e => .str e.msgRef.text
    | .stop => .str "STOP"
  let taken := r.queue i
  (.list (taken.map item), taken.foldl (fun r _ => ((r.take? i).map (·.2)).getD r) r)

def router (v : Value) : Value :=
  match Router.create? (v.intAt "count" 0) (v.intAt "buffer" 100) with
  | .error e => Report.fault e.fault
  | .ok r =>
    let step (acc : Router × Nat × List Value) (s : Value) : Router × Nat × List Value :=
      let (r, dispatched, out) := acc
      let (result, r, dispatched) : Value × Router × Nat :=
        match s.field? "route", s.field? "take" with
        | some payload, _ => match r.route (MessageEvent.ofPayload payload) with
          | (.routed i, r) => (Report.number i, r, dispatched + 1)
          | (.blocked, r) => (.str "full", r, dispatched)
          | (.refused e, r) => (Report.fault e.fault, r, dispatched)
        | none, some i =>
          let (taken, r) := takeAll r i.asInt.toNat
          (taken, r, dispatched)
        | none, none => match r.close? with
          | some r => (.null, r, dispatched)
          | none => (.str "full", r, dispatched)
      (r, dispatched, routerStep r result :: out)
    let (r, dispatched, out) := (v.itemsAt "steps").foldl step (r, 0, [])
    .map [("partitions", Report.number r.partitionCount), ("buffer", Report.number r.bufferSize),
      ("dispatched", Report.number dispatched), ("steps", .list out.reverse)]

def actionKind (name : String) : ActionKind :=
  match name with
  | "command" => .command
  | "hearAction" => .hear
  | _ => .fallback

/-- A response: plugin, kind and index of the action, and the message. -/
def response (v : Value) : Response :=
  ⟨⟨(v.item 0).asText, actionKind (v.item 1).asText, (v.item 2).asInt.toNat⟩,
    Description.messageId (v.item 3)⟩

def tracker (v : Value) : Value :=
  let config : BotConfig := { token := "", responseCacheSize := v.intAt "capacity" 5000 }
  match Bot.create? "" config { driver := Workspace.driver } "" { world := {} } with
  | .error f => Report.fault f
  | .ok bot =>
    let step (acc : ResponseTracker × List Value) (s : Value) : ResponseTracker × List Value :=
      let (t, out) := acc
      let origin := Description.messageId (s.at_ "origin")
      let (result, t) : Value × ResponseTracker := match s.textAt "do" with
        | "put" => (.null, t.put origin ((s.itemsAt "records").map response))
        | "get" =>
          let (found, t) := t.get origin
          ((found.map fun rs => Report.names (rs.map Response.text)).getD .null, t)
        | "remove" => (.null, t.remove origin)
        | _ => (.bool (t.contains origin), t)
      (t, .map [("result", result), ("len", Report.number t.size),
        ("origins", Report.names (t.origins.map MessageId.text))] :: out)
    let (t, out) := (v.itemsAt "steps").foldl step (bot.tracker, [])
    .map [("capacity", Report.number t.cache.capacity), ("steps", .list out.reverse)]

def users (v : Value) : Value :=
  let find : UserFinder (Host Workspace) :=
    cachedFinder fun id => Host.outside (Workspace.directory id)
  let start : Host Workspace :=
    { world := Description.workspace v, profiles := profileCache (v.intAt "capacity" 0) }
  let onWorld (h : Host Workspace) (f : Workspace → Workspace) := { h with world := f h.world }
  let step (acc : Host Workspace × List Value) (s : Value) : Host Workspace × List Value :=
    let (h, out) := acc
    match s.field? "get", s.field? "forget" with
    | some id, _ =>
      let (found, h) := (find id.asText).run (onWorld h Workspace.clearCalls)
      (h, .map [("result", Report.result (found.map Report.profile)),
        ("lookups", Report.number h.world.calls.length)] :: out)
    | none, some id =>
      (onWorld h fun w => { w with users := Entries.erase id.asText w.users }, out)
    | none, none => (onWorld h fun w => { w with failing := s.textsAt "fail" }, out)
  let (h, out) := (v.itemsAt "steps").foldl step (start, [])
  let lookups (result : String) : Value :=
    Report.float (h.metrics.cacheLookups.get [("cache", "user_info"), ("result", result)])
  .map [("caching", .bool h.profiles.isSome), ("hits", lookups "hit"), ("misses", lookups "miss"),
    ("steps", .list out.reverse)]

end ChatEngine.Simulation.Session
