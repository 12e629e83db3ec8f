import ChatEngine.Bundled.Karma
import ChatEngine.Bundled.Monday
import ChatEngine.Bundled.Versioner
import ChatEngine.Bot.Builder
import ChatEngine.Simulation.Workspace

/-!
# Scripted plugins

Scripted plugins: plugins described by data. A description says which messages an action matches,
what it does before it answers, and the text of its answer with placeholders for the message.
-/
namespace ChatEngine.Simulation

/-- Which messages an action matches. -/
inductive Matching where
  | always
  | never
  | equals (value : String)
  | startsWith (value : String)
  | endsWith (value : String)
  | contains (value : String)
  /-- The value is one of the text's words. -/
  | word (value : String)
  | user (id : String)
  | channel (id : String)
  | subtype (name : String)
  | inThread
  | fail (message : String)

/-- A matching rule, and whether it looks at the raw text rather than the normalized one. -/
structure MatchRule where
  matching : Matching
  raw : Bool := false

def MatchRule.test (r : MatchRule) (m : IncomingMessage) : Except Fault Bool :=
  let text := if r.raw then m.rawText else m.normalizedText
  match r.matching with
  | .always => .ok true
  | .never => .ok false
  | .equals v => .ok (text == v)
  | .startsWith v => .ok (Text.startsWith text v)
  | .endsWith v => .ok (Text.endsWith text v)
  | .contains v => .ok (Text.contains text v)
  | .word v => .ok ((Text.split ' ' text).contains v)
  | .user id => .ok (m.userId == some id)
  | .channel id => .ok (m.channel == id)
  | .subtype name => .ok (m.subtype == some name)
  | .inThread => .ok m.inThread
  | .fail message => .error (.invalidValue message)

/-- An upload to make, into the message's thread or to other channels if asked for. -/
structure UploadPlan where
  params : Upload
  inThread : Bool := false
  inChannels : Option (List String) := none

/-- A log entry to write. -/
structure LogPlan where
  format : String
  args : List Value := []

/-- What an action does, in the order of the fields. -/
structure AnswerPlan where
  takes : Option Float := none
  fail : Option String := none
  user : Option String := none
  react : List String := []
  upload : Option UploadPlan := none
  say : Option (String × String) := none
  print : Option LogPlan := none
  debug : Option LogPlan := none
  silent : Bool := false
  text : String := ""
  blocks : Option (List Value) := none
  options : List AnswerOption := []

/-- The value of a placeholder; what the message or the profile lacks leaves nothing. -/
def placeholder? (m : IncomingMessage) (profile : Option UserProfile) (name : String) :
    Option String :=
  match name with
  | "text" => some m.normalizedText
  | "raw" => some m.rawText
  | "user" => some (m.userId.getD "")
  | "channel" => some m.channel
  | "ts" => some m.timestamp
  | "msg" => some m.msgId.text
  | "thread" => some (m.thread?.getD "-")
  | "profile" => some ((profile.map fun p => p.realName.getD "").getD "-")
  | _ => none

/-- Replaces placeholders between braces, in one pass; `open_` is the text after an opening brace
that is still open, last character first. -/
def fillFrom (value : String → Option String) : Option (List Char) → List Char → List Char
  | none, [] => []
  | some open_, [] => '\x7b' :: open_.reverse
  | none, c :: cs =>
    if c = '\x7b' then fillFrom value (some []) cs else c :: fillFrom value none cs
  | some open_, c :: cs =>
    if c = '\x7b' then '\x7b' :: open_.reverse ++ fillFrom value (some []) cs
    else if c = '\x7d' then
      match value (String.ofList open_.reverse) with
      | some text => text.toList ++ fillFrom value none cs
      | none => '\x7b' :: open_.reverse ++ c :: fillFrom value none cs
    else fillFrom value (some (c :: open_)) cs

def fill (m : IncomingMessage) (profile : Option UserProfile) (text : String) : String :=
  String.ofList (fillFrom (placeholder? m profile) none text.toList)

def AnswerPlan.carryOut (p : AnswerPlan) (services : Services (Host Workspace))
    (m : IncomingMessage) : Effect (Host Workspace) (Option Answer) := do
  if let some seconds := p.takes then
    modify fun h => { h with world := h.world.advance seconds }
  if let some message := p.fail then throw (.runtime message)
  let profile ← match p.user with
    | some userId => some <$> services.getUser userId
    | none => pure none
  p.react.forM fun name => services.react name m.originId
  if let some plan := p.upload then
    services.upload plan.params
      ((if plan.inThread then [UploadOption.inThread m] else [])
        ++ (plan.inChannels.map UploadOption.inChannels).toList)
  if let some (text, channel) := p.say then
    let _ ← services.say text channel
  if let some plan := p.print then
    match services.logger with
    | some logger => logger.printf plan.format plan.args
    | none => throw (.missingService "printf")
  if let some plan := p.debug then
    match services.logger with
    | some logger => logger.debugf plan.format plan.args
    | none => throw (.missingService "debugf")
  if p.silent then return none
  return some { text := fill m profile p.text, blocks := p.blocks, options := p.options }

/-- The words of help: a description, or a format string with its arguments that replaces it. -/
structure Wording where
  description : String := ""
  format : Option LogPlan := none

def Wording.text (w : Wording) : Except Fault String :=
  match w.format with
  | some plan => describe plan.format plan.args
  | none => .ok w.description

/-- A command or hear action described by data. -/
structure ActionPlan where
  matching : Option MatchRule := none
  answer : Option AnswerPlan := none
  usage : String := ""
  wording : Wording := {}
  hidden : Bool := false

def ActionPlan.build (p : ActionPlan) : Except Fault (Action Workspace) := do
  let base : Action Workspace :=
    { usage := p.usage, description := ← p.wording.text, hidden := p.hidden }
  let base := match p.matching with
    | some rule => { base with isMatch := rule.test }
    | none => base
  return match p.answer with
    | some plan => { base with answer := plan.carryOut }
    | none => base

/-- A scheduled action described by data. -/
structure SchedulePlan where
  schedule : Schedule := {}
  send : List (String × String) := []
  fail : Option String := none
  noAction : Bool := false
  wording : Wording := {}
  hidden : Bool := false

def SchedulePlan.build (p : SchedulePlan) : Except Fault (ScheduledAction Workspace) := do
  let run : Sender (Host Workspace) → Effect (Host Workspace) Unit := fun sender => do
    if let some message := p.fail then throw (.runtime message)
    p.send.forM fun (text, channel) => discard (sender text channel)
  ScheduledAction.build? p.schedule (if p.noAction then none else some run) (← p.wording.text)
    p.hidden

/-- A plugin described by data. -/
inductive PluginPlan where
  | versioner (botName version : String)
  | karma (entries : List (String × String)) (failing : List String)
  | monday (config : List (String × Value)) (picks : List Nat)
  | scripted (name : String) (commands hearActions : List ActionPlan)
    (scheduled : List SchedulePlan) (namespaced : Bool)

def karmaCloser (store : Nat) : Closer Workspace where
  name := "Karma"
  close := Workspace.closeStore store

def PluginPlan.make (p : PluginPlan) : StateM Workspace (Except Fault (Made Workspace)) := do
  match p with
  | .versioner botName version => return .ok ⟨Versioner.plugin botName version, none⟩
  | .karma entries failing =>
    let store ← modifyGet (Workspace.addStore · ⟨{ name := "karma", entries }, failing⟩)
    return .ok ⟨Karma.plugin (Workspace.storeOps store), some (karmaCloser store)⟩
  | .monday config picks =>
    let chooser ← modifyGet Workspace.addChooser
    return (Monday.plugin config (Workspace.choose chooser picks)).map fun plugin => ⟨plugin, none⟩
  | .scripted name commands hearActions scheduled namespaced =>
    return do
      let commands ← commands.mapM ActionPlan.build
      let hearActions ← hearActions.mapM ActionPlan.build
      let scheduledActions ← scheduled.mapM SchedulePlan.build
      return ⟨{ name, commands, hearActions, scheduledActions, namespaced }, none⟩

end ChatEngine.Simulation
