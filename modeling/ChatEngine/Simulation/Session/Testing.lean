import ChatEngine.Simulation.Description
import ChatEngine.Simulation.Report

/-!
# Sessions with the plugin tester

Sessions with the tester of plugins and with checks of answers.
-/
namespace ChatEngine.Simulation.Report

def message (m : IncomingMessage) : Value := .map
  [("msg_id", .str m.msgId.text), ("original_msg_id", .str m.originId.text),
   ("user", .ofOption m.userId), ("channel", .str m.channel), ("raw", .str m.rawText),
   ("normalized", .str m.normalizedText), ("thread", .ofOption m.threadTimestamp),
   ("subtype", .ofOption m.subtype), ("timestamp", .str m.timestamp),
   ("in_thread", .bool m.inThread), ("direct", .bool m.isDirect)]

def answer? (a : Option Answer) : Value := (a.map answer).getD .null

end ChatEngine.Simulation.Report

namespace ChatEngine.Simulation.Session

open ChatEngine.Value

def testStep (identity : Identity) (p : Plugin Workspace) (x : Value) :
    Effect (Host Workspace) Value := do
  let channel := x.textAt "channel" "C1"
  let user := x.textAt "user" "U1"
  let schedule := Description.schedule (x.at_ "schedule")
  let m := Testing.incoming identity (x.textAt "text") channel user (x.textAt "ts" "100.0")
    (x.textAt? "thread")
  let actions := if x.textAt "kind" == "command" then p.commands else p.hearActions
  let action : Effect (Host Workspace) (Action Workspace) :=
    Effect.ofResult (((x.pick? "index" actions).map .ok).getD (.error Fault.badIndex))
  match x.textAt "do" with
  | "answers" =>
    let made ← Testing.answersAndReacts identity p (x.textAt "text") channel user
    return .map [("answers", .list (made.answers.map Report.answer)),
      ("emojis", Report.names made.emojis),
      ("uploads", .list (made.uploads.map Report.upload))]
  | "runs" =>
    let sent ← Testing.runsOnSchedule (Testing.inject p) schedule
    return .map (sent.map fun (channel, texts) => (channel, Report.names texts))
  | "does_not_run" =>
    Effect.ofResult ((Testing.doesNotRunOnSchedule p schedule).mapError Testing.Unmet.fault)
    return .null
  | "incoming" => return Report.message m
  | "matches" =>
    return Report.answer? (← Testing.matchesAndAnswers p.services (← action) m)
  | "not_match" =>
    Effect.ofResult (Testing.doesNotMatch (← action) m)
    return .null
  | _ =>
    Testing.matchesAndReacts (Testing.inject p) (← action) m (x.textsAt "emojis")
    return .null

def injects (x : Value) : Bool := ["answers", "runs", "reacts"].contains (x.textAt "do")

def tester (v : Value) : Value :=
  match (Description.pluginPlan (v.at_ "plugin")).make {} with
  | (.error f, _) => Report.fault f
  | (.ok made, world) =>
    let identity : Identity := ⟨some (v.textAt "bot" "BOT"), some (v.textAt "bot_name" "bot")⟩
    let step (acc : Plugin Workspace × Host Workspace × List Value) (x : Value) :
        Plugin Workspace × Host Workspace × List Value :=
      let (p, h, out) := acc
      let (result, h) := (testStep identity p x).run h
      (if injects x then Testing.inject p else p, h,
       Report.result result :: out)
    let start : Host Workspace := { world }
    .list ((v.itemsAt "steps").foldl step (made.plugin, start, [])).2.2.reverse

def checkAnswer (v : Value) : Value :=
  let answer := (v.field? "answer").map Description.answer
  let expected := v.at_ "expected"
  let checked := match v.textAt "check" with
    | "text" => Testing.checkText answer expected.asText
    | "contains" => Testing.checkTextPart answer expected.asText
    | _ => Testing.checkOptions answer expected.textEntries
  Report.result ((checked.map fun _ => .str "passed").mapError Testing.Unmet.fault)

end ChatEngine.Simulation.Session
