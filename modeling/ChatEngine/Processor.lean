import ChatEngine.Reply.Reconcile

/-!
# Processing message events

Processing of message events. A new or edited message is shown to the actions, and their replies
are brought in line with what was posted before; a deleted message takes its replies along. Events
that are ignored or malformed, and the bot's own messages, change nothing.
-/
namespace ChatEngine

variable {σ : Type}

/-- Everything that processing depends on and no event changes. -/
structure Processor (σ : Type) where
  dialog : Dialog σ
  outbox : Outbox σ

namespace Processor

/-- What processing changes: the recorded replies, and the host. -/
structure State (σ : Type) where
  tracker : ResponseTracker
  host : Host σ

abbrev Step (σ α : Type) := StateM (State σ) α

def onHost {α : Type} (act : StateM (Host σ) α) : Step σ α := fun s =>
  let (a, host) := act s.host
  (a, { s with host })

def remembered (origin : MessageId) : Step σ (Option (List Response)) := fun s =>
  let (found, tracker) := s.tracker.get origin
  (found, { s with tracker })

def remember (origin : MessageId) (responses : List Response) : Step σ Unit :=
  modify fun s => { s with tracker := s.tracker.put origin responses }

/-- Takes back the replies to a deleted message; those that cannot be deleted stay recorded. -/
def processDelete (p : Processor σ) (origin : MessageId) : Step σ Unit := do
  match ← remembered origin with
  | none =>
    onHost (Host.record .debug "deleted_message_without_responses" [("origin", .str origin.text)])
  | some prior =>
    let remaining ← onHost (p.outbox.withdrawAll origin prior)
    remember origin remaining

def processIncoming [Clocked σ] (p : Processor σ) (message : IncomingMessage) : Step σ Unit := do
  let replies ← onHost (p.dialog.replies message)
  let prior ← remembered message.originId
  let records ← onHost (p.outbox.reconcile message replies (prior.getD []))
  remember message.originId records

/-- Processes a new or edited message, unless the bot wrote it. -/
def processMessage [Clocked σ] (p : Processor σ) (event : MessageEvent) :
    Step σ (Except Fault Unit) := do
  match p.dialog.incoming event with
  | .error fault => return .error fault
  | .ok none => return .ok ()
  | .ok (some message) =>
    if p.dialog.isOwn event message then
      onHost (Host.record .debug "own_message_ignored" [("origin", .str message.originId.text)])
    else p.processIncoming message
    return .ok ()

def timed {α : Type} [Clocked σ] (labels : List (String × String)) (act : Step σ α) :
    Step σ α := do
  let start := Clocked.now (← get).host.world
  let result ← act
  onHost (modify fun h =>
    { h with metrics := h.metrics.observe .processing labels (Clocked.now h.world - start) })
  return result

/-- Processes a message event. The one fault it can end with is a message without text. -/
def process [Clocked σ] (p : Processor σ) (event : MessageEvent) : Step σ (Except Fault Unit) := do
  if event.kind = .ignored then
    onHost (Host.record .debug "message_ignored"
      [("channel_id", Value.ofOption event.channel), ("subtype", Value.ofOption event.subtype)])
    return .ok ()
  match event.validate with
  | .error refusal =>
    onHost (Host.record .warning "malformed_message_skipped"
      [("error", .str refusal.message), ("channel_id", Value.ofOption event.channel)])
    return .ok ()
  | .ok () =>
    let labels := [("type", event.kind.text)]
    onHost (Host.count .messagesProcessed labels)
    timed labels do
      if event.kind = .delete then
        p.processDelete event.originId
        return .ok ()
      else p.processMessage event

end Processor

end ChatEngine
