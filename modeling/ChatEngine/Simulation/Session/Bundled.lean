import ChatEngine.Simulation.Session.Plugins

/-!
# Sessions with bundled plugins

Sessions with the bundled plugins and with stores.
-/
namespace ChatEngine.Simulation.Session

open ChatEngine.Value

/-- Whether an action matches a message; failing to tell counts as no. -/
def matchReport (action : Action Workspace) (m : IncomingMessage) : Value :=
  .bool (match action.isMatch m with
    | .ok b => b
    | .error _ => false)

def karma (v : Value) : Value :=
  let (i, world) := Workspace.addStore {}
    ⟨{ name := "karma", entries := v.textEntriesAt "store" }, []⟩
  let ops := Workspace.storeOps i
  let services : Services (Host Workspace) :=
    { logger := if v.boolAt "debug" then
        some { debug := true, context := [("plugin", .str "karma")] } else none }
  let step (acc : Host Workspace × List Value) (x : Value) : Host Workspace × List Value :=
    let (h, out) := acc
    let h := { h with log := [] }
    let m := Description.message x
    let ask (action : Action Workspace) : Value × Host Workspace :=
      let (answer, h) := (action.answer services m).run h
      (.map [("matches", matchReport action m),
        ("answer", Report.result (answer.map fun a => (a.map Report.answer).getD .null))], h)
    let (result, h) : Value × Host Workspace :=
      if x.has "fail" then (.null, { h with world := h.world.failStores (x.textsAt "fail") })
      else if x.has "close" then (.null, ((Workspace.closeStore i).run h).2)
      else match x.textAt "do" with
        | "karma" => ask (Karma.changeAction ops)
        | "top" => ask (Karma.rankingCommand ops false)
        | _ => ask (Karma.rankingCommand ops true)
    let s := (h.world.storeAt i).store
    (h, .map [("result", result), ("store", Report.texts s.entries), ("closed", .bool s.closed),
      ("logs", Report.logs h.log .debug)] :: out)
  .list ((v.itemsAt "steps").foldl step ({ world }, [])).2.reverse

def versioner (v : Value) : Value :=
  let plugin : Plugin Workspace := Versioner.plugin (v.textAt "bot") (v.textAt "version")
  let m := Description.messageOf (v.textAt "text")
  match plugin.commands with
  | [] => .null
  | c :: _ =>
    let answer := match ((c.answer {} m).run { world := {} }).1 with
      | .ok (some a) => Value.str a.text
      | _ => .null
    .map [("matches", matchReport c m), ("answer", answer), ("usage", .str c.usage),
      ("description", .str c.description)]

def monday (v : Value) : Value :=
  let plan : PluginPlan := .monday (v.entriesAt "config") (Description.picks v)
  match plan.make {} with
  | (.error f, _) => Report.fault f
  | (.ok m, world) =>
    match m.plugin.scheduledActions with
    | [] => .null
    | s :: _ =>
      let h : Host Workspace := (List.range (v.intAt "times" 1).toNat).foldl
        (fun h _ => ((s.run saying).run h).2) { world }
      .map [("name", .str m.plugin.name), ("schedule", .str s.wording),
        ("calls", Report.calls h.world)]

def store (v : Value) : Value :=
  let start : MemoryStore :=
    { name := v.textAt "name" "memory", entries := v.textEntriesAt "initial" }
  let step (acc : MemoryStore × Log × List Value) (x : Value) : MemoryStore × Log × List Value :=
    let (s, log, out) := acc
    let key := (x.item 1).asText
    let changed (r : Except Fault MemoryStore) : Value × MemoryStore :=
      (Report.outcome (r.map fun _ => ()), r.toOption.getD s)
    let (result, s, log) : Value × MemoryStore × Log := match (x.item 0).asText with
      | "get" => (Report.result ((s.get key).map .str), s, log)
      | "put" => let (r, s) := changed (s.put key (x.item 2).asText); (r, s, log)
      | "delete" => let (r, s) := changed (s.delete key); (r, s, log)
      | "scan" => (Report.result (s.scan.map Report.texts), s, log)
      | "len" => (Report.number s.size, s, log)
      | _ => let (s, entry) := s.close; (.null, s, entry.toList ++ log)
    (s, log, .map [("result", result), ("len", Report.number s.size),
      ("closed", .bool s.closed)] :: out)
  let (_, log, out) := (v.itemsAt "steps").foldl step (start, [], [])
  .map [("steps", .list out.reverse), ("logs", Report.logs log .debug)]

end ChatEngine.Simulation.Session
