import ChatEngine.Driver
import ChatEngine.Reply.Pending
import ChatEngine.Responses

/-!
# Reconciling replies with posted messages

Bringing the messages that the bot posted in line with the replies it wants: a reply of an action
that replied before changes the earlier message, any other reply is posted, and earlier messages
whose action no longer replies are deleted. What is recorded is only what the driver confirmed.
-/
namespace ChatEngine

variable {σ : Type}

/-- The way replies are sent: through which driver, and with which defaults. -/
structure Outbox (σ : Type) where
  driver : ChatDriver (Host σ)
  defaults : ReplyDefaults := {}

namespace Outbox

def failed (operation : String) (origin : MessageId) (action : ActionId)
    (response : Option MessageId) : StateM (Host σ) Unit := do
  Host.count .outboundErrors [("operation", operation)]
  Host.record .error "outbound_operation_failed"
    [("operation", .str operation), ("origin", .str origin.text), ("plugin", .str action.plugin),
     ("action", .str action.text), ("response", Value.ofOption (response.map MessageId.text))]

/-- Posts a reply; nothing is recorded if that fails. -/
def post (o : Outbox σ) (message : IncomingMessage) (reply : PendingReply) :
    StateM (Host σ) (Option Response) := do
  let (thread, broadcast) := o.defaults.placement message reply.options
  match ← (o.driver.send { channel := message.channel, text := reply.answer.text, thread,
                           broadcast, blocks := reply.answer.blocks }).attempt with
  | .ok sent => return some ⟨reply.action, sent⟩
  | .error _ =>
    failed "send" message.originId reply.action none
    return none

def whisper (o : Outbox σ) (message : IncomingMessage) (reply : PendingReply) (userId : String) :
    StateM (Host σ) Unit := do
  let (thread, _) := o.defaults.placement message reply.options
  match ← (o.driver.whisper { channel := message.channel, userId, text := reply.answer.text,
                              thread, blocks := reply.answer.blocks }).attempt with
  | .ok () => return ()
  | .error _ => failed "send_ephemeral" message.originId reply.action none

/-- Changes an earlier message into a reply; the record stays as it is if that fails. -/
def revise (o : Outbox σ) (origin : MessageId) (existing : Response) (reply : PendingReply) :
    StateM (Host σ) Response := do
  match ← (o.driver.update existing.message reply.answer.text reply.answer.blocks).attempt with
  | .ok updated => return ⟨reply.action, updated⟩
  | .error _ =>
    failed "update" origin reply.action (some existing.message)
    return existing

/-- Deletes an earlier message, and says whether that was confirmed. -/
def withdraw (o : Outbox σ) (origin : MessageId) (response : Response) :
    StateM (Host σ) Bool := do
  match ← (o.driver.delete response.message).attempt with
  | .ok () => return true
  | .error _ =>
    failed "delete" origin response.action (some response.message)
    return false

/-- Deletes earlier messages in order; the answer is what could not be deleted. -/
def withdrawAll (o : Outbox σ) (origin : MessageId) :
    List Response → StateM (Host σ) (List Response)
  | [] => return []
  | response :: rest => do
    let gone ← o.withdraw origin response
    let remaining ← o.withdrawAll origin rest
    return if gone then remaining else response :: remaining

/-- Earlier responses by action; of two with one action the later counts. -/
abbrev Earlier := List (ActionId × Response)

def earlier (prior : List Response) : Earlier :=
  Entries.ofList (prior.map fun r => (r.action, r))

/-- Delivers replies in order: each is shown to one user, changes the earlier message of its
action, or is posted. The answer is the new records and the earlier responses left over. -/
def deliver (o : Outbox σ) (message : IncomingMessage) :
    List PendingReply → Earlier → StateM (Host σ) (List Response × Earlier)
  | [], previous => return ([], previous)
  | reply :: rest, previous => do
    match reply.options.ephemeralTo with
    | some userId =>
      o.whisper message reply userId
      o.deliver message rest previous
    | none =>
      match Entries.get? reply.action previous with
      | some existing =>
        let record ← o.revise message.originId existing reply
        let (records, left) ← o.deliver message rest (Entries.erase reply.action previous)
        return (record :: records, left)
      | none =>
        let sent ← o.post message reply
        let (records, left) ← o.deliver message rest previous
        return (sent.toList ++ records, left)

/-- Brings the posted messages in line with the replies; the answer is what to record. -/
def reconcile (o : Outbox σ) (message : IncomingMessage) (replies : List PendingReply)
    (prior : List Response) : StateM (Host σ) (List Response) := do
  let (records, stale) ← o.deliver message replies (earlier prior)
  let kept ← o.withdrawAll message.originId (stale.map (·.2))
  let records := records ++ kept
  if !(records.isEmpty && prior.isEmpty) then
    Host.record .debug "responses_recorded"
      [("origin", .str message.originId.text), ("responses", .int records.length)]
  return records

end Outbox

end ChatEngine
