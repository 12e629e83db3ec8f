import ChatEngine.Directory
import ChatEngine.Slack.Connection

/-!
# Services of a Slack connection

The services that a connection to Slack provides: messages, reactions, uploads and the directory of
users. A refused request becomes the fault of its service; other failures pass through.
-/
namespace ChatEngine

/-- Reads a directory entry; the entry and its nested profile have to be maps. -/
def UserProfile.read (user : Value) : Except Fault UserProfile :=
  let check (v : Value) : Except Fault Unit :=
    match v with
    | .map _ => .ok ()
    | v => .error ⟨.missingAttribute, s!"'{v.typeName}' object has no attribute 'get'"⟩
  do
    check user
    check ((user.get? "profile").getD (.map []))
    return UserProfile.ofPayload user

namespace Slack.Connection

variable {σ : Type}

/-- How a service fails when a request is refused. -/
structure Refusal where
  kind : FaultKind
  failure : String
  logged : Option String

/-- Makes a request; `refused` says what a refusal becomes, given its code. -/
def request {α : Type} (p : Platform σ) (r : Request) (refused : String → Effect (Connection σ) α)
    (answered : Value → Effect (Connection σ) α) : Effect (Connection σ) α := do
  match ← outside (p.call r) with
  | .answer data => answered data
  | .refused code => refused code

def refuse {α : Type} (how : Refusal) (code : String) : Effect (Connection σ) α := do
  if let some event := how.logged then
    record .error event [("error", .str (refusalText code))]
  throw ⟨how.kind, how.failure ++ ": " ++ refusalText code⟩

/-- The identity that an answer gives a message; what it leaves out stays. -/
def answeredId (data : Value) (id : MessageId) : MessageId :=
  let part (key : String) (missing : String) := ((data.get? key).map Value.text).getD missing
  ⟨part "channel" id.channel, part "ts" id.timestamp⟩

def driver (p : Platform σ) : ChatDriver (Connection σ) where
  send message := request p (.post message)
    (refuse ⟨.send, "Failed to send message", some "send_message_failed"⟩)
    fun data => do
      let id := answeredId data ⟨message.channel, ""⟩
      record .debug "message_sent"
        [("message", .str id.text), ("thread_ts", .ofOption message.thread)]
      return id
  update id text blocks := request p (.update id text blocks)
    (refuse ⟨.send, "Failed to update message", some "update_message_failed"⟩)
    fun data => return answeredId data id
  delete id := request p (.delete id)
    (refuse ⟨.send, "Failed to delete message", some "delete_message_failed"⟩)
    fun _ => return ()
  whisper message := request p (.whisper message)
    (refuse ⟨.send, "Failed to send ephemeral message", some "send_ephemeral_failed"⟩)
    fun _ => return ()

/-- Adds reactions; one that is there already is no failure. -/
def reactor (p : Platform σ) : Reactor (Connection σ) := fun name item =>
  request p (.react name item)
    (fun code =>
      if code = "already_reacted" then return ()
      else refuse ⟨.reaction, "Failed to add reaction", some "add_reaction_failed"⟩ code)
    fun _ => record .debug "reaction_added"
      [("message", .str item.text), ("reaction", .str name)]

def uploader (p : Platform σ) : Uploader (Connection σ) := fun params =>
  request p (.upload params)
    (refuse ⟨.upload, "Failed to upload file", some "file_upload_failed"⟩)
    fun _ => return ()

def directory (p : Platform σ) : UserFinder (Connection σ) := fun userId =>
  request p (.userInfo userId)
    (fun code =>
      if code = "user_not_found" then throw (.userNotFound userId)
      else refuse ⟨.adapter, s!"Failed to look up user [{userId}]", none⟩ code)
    fun data => Effect.ofResult (UserProfile.read ((data.get? "user").getD (.map [])))

end Slack.Connection

end ChatEngine
