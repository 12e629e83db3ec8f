import ChatEngine.Mention
import ChatEngine.Event
import ChatEngine.Plugin.Registry

/-!
# Pending replies

The replies to a message. A message on a direct channel or with a leading mention of the bot is a
command; the actions of its kind are evaluated in registration order, each on its own, and their
answers become replies with resolved options.
-/
namespace ChatEngine

variable {σ : Type}

/-- An answer with the action that gave it and its options. -/
structure PendingReply where
  action : ActionId
  answer : Answer
  options : ReplyOptions

/-- What is done for replies whose options leave it open. -/
structure ReplyDefaults where
  threaded : Bool := false
  broadcast : Bool := true
  deriving DecidableEq, Repr

/-- What the replies to a message depend on: the actions in order, and who the bot is. -/
structure Dialog (σ : Type) where
  commands : List (RegisteredAction σ)
  hearActions : List (RegisteredAction σ)
  identity : Option Identity := none

def fallbackText : String :=
  "I don't understand, ask me for \"help\" to get a list of things I do"

/-- The settings of a reply: those of its answer, between a channel rule and a thread rule. On a
direct channel threading is off unless asked for; in a thread replies stay in the thread. -/
def replySettings (answer : Answer) (message : IncomingMessage) : List AnswerOption :=
  (if message.isDirect then [AnswerOption.withoutThreading] else [])
    ++ answer.options
    ++ (match message.thread? with
      | some thread => [AnswerOption.inExistingThread thread]
      | none => [])

def PendingReply.ofAnswer (action : ActionId) (answer : Answer) (message : IncomingMessage) :
    PendingReply :=
  ⟨action, answer, ReplyOptions.resolve (replySettings answer message)⟩

/-- Where a reply goes: the thread, if any, and whether it shows on the channel as well. -/
def ReplyDefaults.placement (defaults : ReplyDefaults) (message : IncomingMessage)
    (options : ReplyOptions) : Option String × Bool :=
  if options.threaded.getD defaults.threaded then
    (some (options.existingThread.getD message.timestamp),
      options.broadcast.getD defaults.broadcast)
  else (none, false)

namespace RegisteredAction

/-- What an action does with a message that it applies to: its answer if it matches. -/
def evaluate (r : RegisteredAction σ) (view : IncomingMessage) :
    Effect (Host σ) (Option Answer) := do
  match r.action.isMatch view with
  | .error fault => throw fault
  | .ok false => return none
  | .ok true => r.action.answer r.plugin.services view

/-- The answer of an action to a message, if it has one. A fault is logged and gives no answer,
and neither does an empty answer. -/
def tryAnswer [Clocked σ] (r : RegisteredAction σ) (message : IncomingMessage) :
    StateM (Host σ) (Option Answer) := do
  match r.prepare message with
  | none => return none
  | some view =>
    let result ← Host.timed .pluginProcessing [("plugin", r.plugin.name)] do
      let result ← (r.evaluate view).attempt
      if let .error _ := result then
        Host.record .error "plugin_action_failed"
          [("plugin", .str r.plugin.name), ("action", .str r.id.text),
           ("origin", .str message.originId.text)]
      return result
    match result with
    | .ok (some answer) =>
      if answer.isEmpty then return none
      Host.count .pluginAnswers [("plugin", r.plugin.name)]
      return some answer
    | _ => return none

end RegisteredAction

namespace Dialog

/-- The view of an event that actions are given; deletes have none. The text has to be there. -/
def incoming (d : Dialog σ) (event : MessageEvent) : Except Fault (Option IncomingMessage) :=
  if event.kind = .delete then .ok none
  else match event.resolvedText with
    | none => .error .missingText
    | some text => .ok <| some {
        msgId := event.msgRef.id
        originId := event.originId
        userId := event.resolvedUser
        channel := event.msgRef.id.channel
        rawText := text
        normalizedText := (stripMention text d.identity).2
        threadTimestamp := event.resolvedThread
        subtype := event.subtype
        payload := event.payload }

def isCommand (d : Dialog σ) (message : IncomingMessage) : Bool :=
  message.isDirect || (stripMention message.rawText d.identity).1

def isOwn (d : Dialog σ) (event : MessageEvent) (message : IncomingMessage) : Bool :=
  match d.identity with
  | none => false
  | some i => message.userId == i.userId || event.botId == i.userId

def candidates (d : Dialog σ) (message : IncomingMessage) : List (RegisteredAction σ) :=
  if d.isCommand message then d.commands else d.hearActions

def gather [Clocked σ] (message : IncomingMessage) :
    List (RegisteredAction σ) → StateM (Host σ) (List PendingReply)
  | [] => return []
  | r :: rest => do
    let answer ← r.tryAnswer message
    let replies ← gather message rest
    match answer with
    | some answer => return PendingReply.ofAnswer r.id answer message :: replies
    | none => return replies

/-- The replies to a message; a command that nothing answers is told so. -/
def replies [Clocked σ] (d : Dialog σ) (message : IncomingMessage) :
    StateM (Host σ) (List PendingReply) := do
  let replies ← gather message (d.candidates message)
  if d.isCommand message && replies.isEmpty then
    return [PendingReply.ofAnswer .fallback { text := fallbackText } message]
  return replies

end Dialog

end ChatEngine
