import ChatEngine.Message

/-!
# Events of the stream

Events of the real-time stream. A message event announces a new, edited or deleted message; it is
read from a payload whose fields may be missing or null, and validated before it is processed.
-/
namespace ChatEngine

/-- How a message event is processed. -/
inductive MessageKind where
  | new
  | edit
  | delete
  | ignored
  deriving DecidableEq, Repr

def MessageKind.text : MessageKind → String
  | .new => "new"
  | .edit => "edit"
  | .delete => "delete"
  | .ignored => "ignored"

/-- What a message event lacks. -/
inductive MalformedEvent where
  | noIdentity
  | noEditedMessage
  | noDeletedTimestamp
  deriving DecidableEq, Repr

def MalformedEvent.message : MalformedEvent → String
  | .noIdentity => "Message event without channel or timestamp"
  | .noEditedMessage => "Edit event without the edited message"
  | .noDeletedTimestamp => "Delete event without the deleted message timestamp"

/-- A text field of a payload: `missing` when the field is absent, none when it is null. -/
def Value.textField (v : Value) (key : String) (missing : Option String) : Option String :=
  match v.get? key with
  | none => missing
  | some (.str s) => some s
  | some _ => none

def present (s : Option String) : Bool := s.any (!·.isEmpty)

/-- The message nested in an edit or delete event. -/
structure SubMessage where
  timestamp : Option String
  text : Option String := some ""
  userId : Option String := some ""
  threadTimestamp : Option String := none

def SubMessage.ofPayload (v : Value) : SubMessage :=
  { timestamp := v.textField "ts" (some "")
    text := v.textField "text" (some "")
    userId := v.textField "user" (some "")
    threadTimestamp := v.textField "thread_ts" none }

/-- A new, edited or deleted message. An edit carries the edited message, with its new text and
its first timestamp; a delete names the deleted message, or carries its last content. -/
structure MessageEvent where
  channel : Option String
  timestamp : Option String
  userId : Option String := some ""
  text : Option String := some ""
  subtype : Option String := some ""
  threadTimestamp : Option String := none
  botId : Option String := none
  replyTo : Value := .null
  edited : Option SubMessage := none
  previous : Option SubMessage := none
  deletedTimestamp : Option String := none
  payload : Value := .map []

namespace MessageEvent

/-- The nested message at a key, if the payload has a map there. -/
def nested (payload : Value) (key : String) : Option SubMessage :=
  match payload.get? key with
  | some (.map entries) => some (SubMessage.ofPayload (.map entries))
  | _ => none

def ofPayload (payload : Value) : MessageEvent :=
  { channel := payload.textField "channel" (some "")
    timestamp := payload.textField "ts" (some "")
    userId := payload.textField "user" (some "")
    text := payload.textField "text" (some "")
    subtype := payload.textField "subtype" (some "")
    threadTimestamp := payload.textField "thread_ts" none
    botId := payload.textField "bot_id" none
    replyTo := (payload.get? "reply_to").getD .null
    edited := nested payload "message"
    previous := nested payload "previous_message"
    deletedTimestamp := payload.textField "deleted_ts" none
    payload }

/-- The kind of an event. Acknowledgements of replies and reply notices are ignored. -/
def kind (e : MessageEvent) : MessageKind :=
  if e.replyTo.isTruthy then .ignored
  else if e.subtype = some "message_deleted" then .delete
  else if e.subtype = some "message_changed" then .edit
  else if e.subtype = some "message_replied" then .ignored
  else .new

def msgRef (e : MessageEvent) : MessageRef := ⟨e.channel, e.timestamp⟩

def originTimestamp (e : MessageEvent) : Option String :=
  match e.kind with
  | .edit => match e.edited with
    | some sub => sub.timestamp
    | none => e.timestamp
  | .delete =>
    if present e.deletedTimestamp then e.deletedTimestamp
    else match e.previous with
      | some sub => sub.timestamp
      | none => e.timestamp
  | _ => e.timestamp

def originRef (e : MessageEvent) : MessageRef := ⟨e.channel, e.originTimestamp⟩

def originId (e : MessageEvent) : MessageId := e.originRef.id

def validate (e : MessageEvent) : Except MalformedEvent Unit :=
  if !present e.channel || !present e.timestamp then .error .noIdentity
  else match e.kind with
    | .edit =>
      if present (e.edited.bind (·.timestamp)) then .ok () else .error .noEditedMessage
    | .delete =>
      if present e.deletedTimestamp || present (e.previous.bind (·.timestamp)) then .ok ()
      else .error .noDeletedTimestamp
    | _ => .ok ()

def firstPresent (a b : Option String) : Option String := if present a then a else b

/-- The text that matching sees: the edited text for an edit. -/
def resolvedText (e : MessageEvent) : Option String :=
  match e.kind, e.edited with
  | .edit, some sub => sub.text
  | _, _ => e.text

/-- The author that matching sees: for an edit the edited message's, if it names one. -/
def resolvedUser (e : MessageEvent) : Option String :=
  match e.kind, e.edited with
  | .edit, some sub => firstPresent sub.userId e.userId
  | _, _ => e.userId

/-- The thread that matching sees: for an edit the edited message's, if it names one. -/
def resolvedThread (e : MessageEvent) : Option String :=
  match e.kind, e.edited with
  | .edit, some sub => firstPresent sub.threadTimestamp e.threadTimestamp
  | _, _ => e.threadTimestamp

end MessageEvent

/-- What the stream of a chat service yields. -/
inductive Event where
  | hello
  | connected (identity : Identity) (connectionCount : Int)
  | latency (milliseconds : Float)
  | transportError (code : Int) (message : String)
  | invalidAuth
  | termination
  | message (event : MessageEvent)
  | unknown (typeName : String)

end ChatEngine
