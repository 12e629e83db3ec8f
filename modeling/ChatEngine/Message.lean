import ChatEngine.Value
import ChatEngine.Text.Trim

/-!
# Messages and their authors

Messages and the people who write them: message identities, the bot's own identity, user
profiles, and the view of a message that actions are given.
-/
namespace ChatEngine

/-- The identity of a message in the workspace. Timestamps are opaque and compared as texts. -/
structure MessageId where
  channel : String
  timestamp : String
  deriving DecidableEq, Repr, Inhabited

namespace MessageId

def text (id : MessageId) : String := id.channel ++ "/" ++ id.timestamp

/-- Whether one identity comes before or equals another: by channel, then by timestamp, both by
code points. -/
def le (a b : MessageId) : Bool :=
  a.channel < b.channel || (a.channel == b.channel && !(b.timestamp < a.timestamp))

def sort (ids : List MessageId) : List MessageId := ids.mergeSort le

def described (id : MessageId) : String :=
  "MessageID(channel_id=" ++ Text.quote id.channel ++ ", timestamp="
    ++ Text.quote id.timestamp ++ ")"

end MessageId

/-- The identity that an event claims for a message; parts that the event nulls out are absent. -/
structure MessageRef where
  channel : Option String
  timestamp : Option String
  deriving DecidableEq, Repr

namespace MessageRef

def text (r : MessageRef) : String :=
  r.channel.getD "None" ++ "/" ++ r.timestamp.getD "None"

/-- The message referred to; an absent part is empty, which no valid event has. -/
def id (r : MessageRef) : MessageId := ⟨r.channel.getD "", r.timestamp.getD ""⟩

end MessageRef

/-- The bot's own identity, known once the connection is established; what the service nulls out
is absent. -/
structure Identity where
  userId : Option String
  userName : Option String := some ""
  deriving DecidableEq, Repr

def Identity.idText (i : Identity) : String := i.userId.getD "None"

def Identity.mention (i : Identity) : String := "<@" ++ i.idText ++ ">"

/-- A user as the directory describes them; what the directory nulls out is absent. -/
structure UserProfile where
  id : Option String
  name : Option String := some ""
  realName : Option String := some ""
  displayName : Option String := some ""
  isBot : Bool := false
  deriving DecidableEq, Repr, Inhabited

namespace UserProfile

/-- The text at a key, empty when there is none and absent when it is nulled out. -/
def field (v : Value) (key : String) : Option String :=
  match v.get? key with
  | some (.str s) => some s
  | some _ => none
  | none => some ""

/-- Reads a directory entry. The real name may stand in the nested profile instead. -/
def ofPayload (user : Value) : UserProfile :=
  let profile := (user.get? "profile").getD (.map [])
  let realName := field user "real_name"
  { id := field user "id"
    name := field user "name"
    realName := if realName.getD "" = "" then field profile "real_name" else realName
    displayName := field profile "display_name"
    isBot := ((user.get? "is_bot").getD (.bool false)).isTruthy }

end UserProfile

/-- A message as actions see it. The normalized text is the raw text without a leading mention of
the bot and without surrounding blanks. -/
structure IncomingMessage where
  msgId : MessageId
  /-- The message that a reply reacts to: the edited or deleted one, or the message itself. -/
  originId : MessageId
  userId : Option String
  channel : String
  rawText : String
  normalizedText : String
  threadTimestamp : Option String := none
  subtype : Option String := some ""
  payload : Value := .map []

namespace IncomingMessage

def timestamp (m : IncomingMessage) : String := m.originId.timestamp

def thread? (m : IncomingMessage) : Option String :=
  m.threadTimestamp.filter fun t => !t.isEmpty

def inThread (m : IncomingMessage) : Bool := m.thread?.isSome

def isDirect (m : IncomingMessage) : Bool := Text.startsWith m.channel "D"

end IncomingMessage

end ChatEngine
