import ChatEngine.Log.Pipeline
import ChatEngine.Retry
import ChatEngine.Simulation.Description
import ChatEngine.Simulation.Report

/-!
# Sessions with logs

Sessions with what plugins and the engine log: the logger of a plugin, the set-up log, and the
retrying of an operation.
-/
namespace ChatEngine.Simulation.Session

open ChatEngine.Value

def pluginLogger (v : Value) : Value :=
  let step (acc : PluginLogger × List Value) (x : Value) : PluginLogger × List Value :=
    let (logger, out) := acc
    if x.has "bind" then (logger.bind (x.entriesAt "bind"), out)
    else
      let write := if x.textAt "do" == "printf" then logger.printf else logger.debugf
      let start : Host Workspace := { world := {} }
      let (result, h) := (write (x.textAt "fmt") (x.itemsAt "args")).run start
      (logger, .map [("result", Report.outcome result), ("logs", Report.logs h.log .debug)] :: out)
  let start : PluginLogger := { debug := v.boolAt "debug", context := v.entriesAt "context" }
  .list ((v.itemsAt "steps").foldl step (start, [])).2.reverse

/-- What a log session has so far: the log, the result of each entry, and the entries written. -/
structure Logging where
  pipeline : LogPipeline
  results : List Value := []
  written : List (List (String × Value)) := []

def logStep (s : Logging) (x : Value) : Logging :=
  if x.has "bind" then { s with pipeline := s.pipeline.bind (x.entriesAt "bind") }
  else if x.has "unbind" then { s with pipeline := s.pipeline.unbind (x.textsAt "unbind") }
  else if x.has "clear" then { s with pipeline := s.pipeline.clear }
  else
    let emitted := (s.pipeline.emit (Description.logLevel (x.textAt "log")) (x.at_ "event")
      (x.itemsAt "args") (x.entriesAt "fields")).mapError LogPipeline.EmitError.fault
    { s with
      results := Report.outcome (emitted.map fun _ => ()) :: s.results
      written := (emitted.toOption.bind id).toList ++ s.written }

def logging (v : Value) : Value :=
  match LogPipeline.create (v.textAt "level" "INFO") (v.textAt "log_format" "json")
      (v.textAt "logger" "app") engineVersion with
  | .error e => Report.fault e.fault
  | .ok pipeline =>
    let s := (v.itemsAt "steps").foldl logStep { pipeline }
    let results := ("results", Value.list s.results.reverse)
    match pipeline.format with
    | .console =>
      let lines := s.written.map fun e => Text.countLineEnds (pipeline.line e ++ "\n").toList
      .map [results, ("lines", Report.number (lines.foldl (· + ·) 0))]
    | .json =>
      let kept := v.boolAt "file_enabled" true && !v.boolAt "file_blocked"
      .map <| [results, ("entries", .list (s.written.reverse.map .map))]
        ++ if v.has "file" then [("file", if kept then .bool true else .null)] else []

def attemptOutcome (name : String) (attempt : Nat) : Except Fault String :=
  let message := s!"attempt {attempt}"
  match name with
  | "timeout" => .error ⟨.timeout, message⟩
  | "connection" => .error ⟨.lostConnection, message⟩
  | "value" => .error ⟨.invalidValue, message⟩
  | "runtime" => .error ⟨.runtime, message⟩
  | _ => .ok s!"done after {attempt}"

/-- The calls, waits and log entries of a retried operation. -/
structure Retrying where
  calls : Nat := 0
  waits : List Float := []
  log : Log := []

/-- The kinds of faults that a name in a retry policy stands for; the most general stands for
all. -/
def retriedKinds (name : String) : List FaultKind :=
  match attemptOutcome name 1 with
  | .error fault => [fault.kind]
  | .ok _ =>
    if name == FaultKind.generic.text then FaultKind.all
    else FaultKind.all.filter (·.text == name)

def retrying (v : Value) : Value :=
  let standard : RetryPolicy := {}
  let seconds (key : String) (missing : Float) := ((v.field? key).map asFloat).getD missing
  let policy : RetryPolicy :=
    { maxAttempts := v.intAt "max_attempts" 3
      minWait := seconds "min_wait" standard.minWait
      maxWait := seconds "max_wait" standard.maxWait
      retryOn := ((v.field? "retry_on").map fun names =>
        names.texts.flatMap retriedKinds).getD standard.retryOn }
  let outcomes := v.textsAt "outcomes"
  let act (attempt : Nat) : Effect Retrying String := do
    modify fun r => { r with calls := r.calls + 1 }
    match attemptOutcome (outcomes[attempt - 1]?.getD "ok") attempt with
    | .ok text => return text
    | .error fault => throw fault
  let pause (entry : LogEntry) (wait : Float) : StateM Retrying Unit :=
    modify fun r => { r with waits := r.waits ++ [wait], log := entry :: r.log }
  let (result, r) := (policy.run pause act).run {}
  .map [("result", Report.result (result.map .str)), ("calls", Report.number r.calls),
    ("waits", .list (r.waits.map Report.float)), ("logs", Report.logs r.log .debug)]

end ChatEngine.Simulation.Session
