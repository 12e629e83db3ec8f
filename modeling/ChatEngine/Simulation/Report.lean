import ChatEngine.Metrics.Registry
import ChatEngine.Responses
import ChatEngine.Simulation.Workspace

/-!
# Reports of simulations

Reports: what came of a simulation, written as dynamic values. Floats are reported as texts.
-/
namespace ChatEngine.Simulation.Report

def number (n : Nat) : Value := .int n

def float (x : Float) : Value := .str (Decimal.floatText x)

def texts (es : List (String × String)) : Value := .map (es.map fun (k, v) => (k, .str v))

def names (ns : List String) : Value := .list (ns.map .str)

def fault (f : Fault) : Value := .map [("error", .str f.kind.text), ("message", .str f.message)]

def result (r : Except Fault Value) : Value :=
  match r with
  | .ok v => v
  | .error f => fault f

def outcome (r : Except Fault Unit) : Value := result (r.map fun _ => .null)

def blocks (b : Option (List Value)) : Value := (b.map Value.list).getD .null

def upload (u : Upload) : Value := .map
  [("channels", names u.channels), ("content", .ofOption u.content),
   ("file_path", .ofOption u.filePath), ("filename", .ofOption u.filename),
   ("filetype", .ofOption u.filetype), ("title", .ofOption u.title),
   ("initial_comment", .ofOption u.initialComment),
   ("thread_timestamp", .ofOption u.threadTimestamp)]

def profile (p : UserProfile) : Value := .map
  [("id", .ofOption p.id), ("name", .ofOption p.name), ("real_name", .ofOption p.realName),
   ("display_name", .ofOption p.displayName), ("is_bot", .bool p.isBot)]

def failed (b : Bool) : List (String × Value) := if b then [("failed", .bool true)] else []

def call : Call → Value
  | .send m result => .map <|
    [("call", .str "send"), ("channel", .str m.channel), ("text", .str m.text),
     ("thread", .ofOption m.thread), ("broadcast", .bool m.broadcast), ("blocks", blocks m.blocks)]
      ++ (match result with
        | some id => [("id", .str id.text)]
        | none => failed true)
  | .update id t b failure newId => .map <|
    [("call", .str "update"), ("id", .str id.text), ("text", .str t), ("blocks", blocks b)]
      ++ failed failure ++ (newId.map fun n => ("new_id", Value.str n.text)).toList
  | .delete id failure => .map <|
    [("call", .str "delete"), ("id", .str id.text)] ++ failed failure
  | .whisper m failure => .map <|
    [("call", .str "send_ephemeral"), ("channel", .str m.channel), ("user", .str m.userId),
     ("text", .str m.text), ("thread", .ofOption m.thread), ("blocks", blocks m.blocks)]
      ++ failed failure
  | .react name i failure => .map <|
    [("call", .str "react"), ("name", .str name), ("item", .str i.text)] ++ failed failure
  | .upload params failure => .map <|
    [("call", .str "upload"), ("params", upload params)] ++ failed failure
  | .fetchUser userId failure => .map <|
    [("call", .str "fetch_user"), ("user", .str userId)] ++ failed failure
  | .say t channel failure => .map <|
    [("call", .str "say"), ("text", .str t), ("channel", .str channel)] ++ failed failure

def calls (w : Workspace) : Value := .list (w.journal.map call)

mutual

def logged : Value → Value
  | .float x => float x
  | .list items => .list (loggedItems items)
  | .tuple items => .list (loggedItems items)
  | .map entries => .map (loggedEntries entries)
  | v => v

def loggedItems : List Value → List Value
  | [] => []
  | v :: vs => logged v :: loggedItems vs

def loggedEntries : List (String × Value) → List (String × Value)
  | [] => []
  | (k, v) :: es => (k, logged v) :: loggedEntries es

end

/-- A log entry: its fields with its event and level. -/
def entry (e : LogEntry) : Value :=
  .map (Entries.put "log_level" (.str e.level.text)
    (Entries.put "event" (.str e.event) (loggedEntries e.fields)))

def logs (log : Log) (level : LogLevel) : Value := .list ((log.atLeast level).map entry)

def tracker (t : ResponseTracker) : Value := .map <|
  t.origins.map fun o => (o.text, names ((t.records o).map Response.text))

def settings (o : List AnswerOption) : Value := texts (AnswerOption.merge o)

def options (o : ReplyOptions) : Value :=
  let flag (b : Option Bool) : Value := (b.map Value.bool).getD .null
  .map [("threaded_reply", flag o.threaded),
    ("existing_thread_timestamp", .ofOption o.existingThread),
    ("broadcast", flag o.broadcast), ("ephemeral_to_user", .ofOption o.ephemeralTo),
    ("extra", texts o.extra)]

def answer (a : Answer) : Value := .map
  [("text", .str a.text), ("blocks", blocks a.blocks), ("options", settings a.options)]

def figures (es : List (String × Float)) : Value := .map (es.map fun (k, x) => (k, float x))

def summary (s : Summary Float) : Value :=
  let mean := if s.count = 0 then 0.0 else s.sum / Float.ofNat s.count
  .map [("count", float (Float.ofNat s.count)), ("sum", float s.sum), ("min", float s.min),
    ("max", float s.max), ("mean", float mean)]

def overview (o : Metrics.Overview) : Value := .map
  [("uptime_seconds", float o.uptime),
   ("messages", .map [("seen", float o.seen), ("processed", figures o.processed)]),
   ("outbound_errors", figures o.outboundErrors), ("service_calls", figures o.serviceCalls),
   ("service_errors", figures o.serviceErrors), ("cache", figures o.cache),
   ("slack_latency_ms", float o.latency), ("dispatch_duration_stats", summary o.dispatch)]

def metrics (h : Host Workspace) : Value := result ((h.metrics.overview h.world.clock).map overview)

def exported (m : Metrics) (now : Float) : Value := names (Text.split '\n' (m.exportText now))

end ChatEngine.Simulation.Report
