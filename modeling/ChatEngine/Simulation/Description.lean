import ChatEngine.Simulation.Script
import ChatEngine.Value.Field

/-!
# Descriptions of simulated things

Descriptions: messages, answers, uploads, schedules and plugins written as dynamic values. What a
description leaves out has a default.
-/
namespace ChatEngine.Simulation.Description

open ChatEngine.Value

def messageId (v : Value) : MessageId := ⟨(v.item 0).asText, (v.item 1).asText⟩

def identity (v : Value) : Option Identity :=
  match v with
  | .map _ => some ⟨v.textField "user_id" (some ""), v.textField "user_name" (some "")⟩
  | _ => none

def fault (v : Value) : Fault :=
  ⟨(FaultKind.all.find? (·.text == v.textAt "kind")).getD .generic, v.textAt "message"⟩

/-- A log level by name; some levels have a second one. -/
def logLevel (name : String) : LogLevel :=
  match name with
  | "warn" => .warning
  | "exception" => .error
  | "fatal" => .critical
  | _ => (LogLevel.ofText? name).getD .debug

def answerOption (v : Value) : AnswerOption :=
  match (v.item 0).asText with
  | "in_thread" => AnswerOption.inThread
  | "in_thread_with_broadcast" => AnswerOption.inThreadWithBroadcast
  | "in_thread_without_broadcast" => AnswerOption.inThreadWithoutBroadcast
  | "without_threading" => AnswerOption.withoutThreading
  | "in_existing_thread" => AnswerOption.inExistingThread (v.item 1).asText
  | "ephemeral" => AnswerOption.ephemeral (v.item 1).asText
  | _ => AnswerOption.setting (v.item 1).asText (v.item 2).asText

def schedule (v : Value) : Schedule :=
  { interval := v.intAt "interval" 1
    unit := v.textAt "unit" "weeks"
    weekday := v.textAt? "weekday"
    atTime := v.textAt? "at_time" }

def upload (v : Value) : Upload :=
  { channels := v.textsAt "channels"
    content := v.textAt? "content"
    filePath := (v.textAt? "file_path").map Upload.normalPath
    filename := v.textAt? "filename"
    filetype := v.textAt? "filetype"
    title := v.textAt? "title"
    initialComment := v.textAt? "initial_comment"
    threadTimestamp := v.textAt? "thread_timestamp" }

def message (v : Value) : IncomingMessage :=
  let text := v.textAt "text"
  let id : MessageId := ⟨v.textAt "channel" "C1", v.textAt "ts" "100.0"⟩
  { msgId := id
    originId := ((v.field? "original").map messageId).getD id
    userId := if v.has "user" then v.textAt? "user" else some "U1"
    channel := id.channel
    rawText := v.textAt "raw" text
    normalizedText := text
    threadTimestamp := v.textAt? "thread"
    subtype := some (v.textAt "subtype") }

def messageOf (text : String) : IncomingMessage := message (.map [("text", .str text)])

def blocks? (v : Value) (key : String) : Option (List Value) := (v.field? key).map items

def answer (v : Value) : Answer :=
  { text := v.textAt "text"
    blocks := blocks? v "blocks"
    options := (v.itemsAt "options").map answerOption }

def matchRule (v : Value) : MatchRule :=
  let value := v.textAt "value"
  let matching : Matching := match v.textAt "kind" with
    | "always" => .always
    | "never" => .never
    | "equals" => .equals value
    | "prefix" => .startsWith value
    | "suffix" => .endsWith value
    | "contains" => .contains value
    | "word" => .word value
    | "user" => .user value
    | "channel" => .channel value
    | "subtype" => .subtype value
    | "in_thread" => .inThread
    | _ => .fail value
  { matching, raw := v.textAt "field" == "raw" }

def logPlan (v : Value) : LogPlan := ⟨(v.item 0).asText, v.items.drop 1⟩

def pair (v : Value) : String × String := ((v.item 0).asText, (v.item 1).asText)

def answerPlan (v : Value) : AnswerPlan :=
  { takes := (v.field? "takes").map asFloat
    fail := v.textAt? "raise"
    user := v.textAt? "user"
    react := v.textsAt "react"
    upload := (v.field? "upload").map fun params =>
      { params := upload params
        inThread := v.boolAt "upload_in_thread"
        inChannels := (v.field? "upload_in_channels").map texts }
    say := (v.field? "say").map pair
    print := (v.field? "printf").map logPlan
    debug := (v.field? "debugf").map logPlan
    silent := v.boolAt "none"
    text := v.textAt "text"
    blocks := blocks? v "blocks"
    options := (v.itemsAt "options").map answerOption }

def wording (v : Value) : Wording :=
  { description := v.textAt "description"
    format := (v.field? "descriptionf").map logPlan }

def actionPlan (v : Value) : ActionPlan :=
  { matching := (v.field? "match").map matchRule
    answer := (v.field? "answer").map answerPlan
    usage := v.textAt "usage"
    wording := wording v
    hidden := v.boolAt "hidden" }

def schedulePlan (v : Value) : SchedulePlan :=
  { schedule := ((v.field? "schedule").map schedule).getD {}
    send := (v.itemsAt "send").map pair
    fail := v.textAt? "raise"
    noAction := v.boolAt "no_action"
    wording := wording v
    hidden := v.boolAt "hidden" }

/-- The pictures to pick, by number; numbers go around, also below zero. -/
def picks (v : Value) : List Nat :=
  ((v.field? "picks").map fun p =>
    p.items.map fun n => (n.asInt % (Monday.pictures.length : Int)).toNat).getD [0]

def pluginPlan (v : Value) : PluginPlan :=
  match v.textAt? "bundled" with
  | some "versioner" => .versioner (v.textAt "bot") (v.textAt "version")
  | some "karma" => .karma (v.textEntriesAt "store") (v.textsAt "fail")
  | some _ => .monday (v.entriesAt "config") (picks v)
  | none =>
    .scripted (v.textAt "name") ((v.itemsAt "commands").map actionPlan)
      ((v.itemsAt "hear").map actionPlan) ((v.itemsAt "scheduled").map schedulePlan)
      (v.boolAt "namespaced")

def users (v : Value) : List (String × UserProfile) :=
  v.entries.map fun (id, u) =>
    (id, { id := some id, name := u.textField "name" (some "")
           realName := u.textField "real_name" (some "")
           displayName := u.textField "display_name" (some ""), isBot := u.boolAt "is_bot" })

/-- A workspace: its users, the time its calls take and the calls it fails. -/
def workspace (v : Value) : Workspace :=
  { users := users (v.at_ "users")
    callTime := ((v.field? "driver_takes").map asFloat).getD 0.0
    failing := v.textsAt "fail" }

def makePlugins (plans : List Value) (w : Workspace) :
    Except Fault (List (Made Workspace) × Workspace) :=
  plans.foldlM (fun (made, w) plan =>
    let (result, w) := (pluginPlan plan).make w
    result.map fun m => (made ++ [m], w)) ([], w)

def registryOf (made : List (Made Workspace)) : Except Fault (PluginRegistry Workspace) :=
  made.foldlM (fun r m => (r.register m.plugin).mapError RegistrationError.fault)
    { botName := "youppi", version := engineVersion }

end ChatEngine.Simulation.Description
