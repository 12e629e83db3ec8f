import ChatEngine.Effect

/-!
# Chat drivers

The outbound side of a chat service: posting, changing and deleting messages, and messages that
one user alone sees.
-/
namespace ChatEngine

/-- A message to post. -/
structure Outgoing where
  channel : String
  text : String
  thread : Option String := none
  broadcast : Bool := false
  blocks : Option (List Value) := none

/-- A message that one user alone sees. -/
structure Whisper where
  channel : String
  userId : String
  text : String
  thread : Option String := none
  blocks : Option (List Value) := none

/-- The operations on messages of a chat service; each may fail. -/
structure ChatDriver (σ : Type) where
  send : Outgoing → Effect σ MessageId
  /-- Replaces the content of a message and says which identity it has now. -/
  update : MessageId → String → Option (List Value) → Effect σ MessageId
  delete : MessageId → Effect σ Unit
  whisper : Whisper → Effect σ Unit

namespace ChatDriver

variable {σ : Type}

def outside (d : ChatDriver σ) : ChatDriver (Host σ) where
  send message := Host.outside (d.send message)
  update id text blocks := Host.outside (d.update id text blocks)
  delete id := Host.outside (d.delete id)
  whisper message := Host.outside (d.whisper message)

def sender (d : ChatDriver σ) : (text channel : String) → Effect σ MessageId :=
  fun text channel => d.send { channel, text }

end ChatDriver

/-- Counts the calls and failures of a service's method and records how long calls take; the
result of the call is passed on. -/
def Host.metered {σ α : Type} [Clocked σ] (service method : String) (act : Effect (Host σ) α) :
    Effect (Host σ) α := Effect.of fun h =>
  let labels := [("service", service), ("method", method)]
  let (result, h) :=
    (do Host.count .serviceCalls labels
        Host.timed .service labels act.attempt : StateM (Host σ) (Except Fault α)) h
  match result with
  | .ok a => (.ok a, h)
  | .error fault => (.error fault, (Host.count .serviceErrors labels h).2)

def ChatDriver.metered {σ : Type} [Clocked σ] (d : ChatDriver (Host σ)) : ChatDriver (Host σ) where
  send message := Host.metered "chat_driver" "send_message" (d.send message)
  update id text blocks := Host.metered "chat_driver" "update_message" (d.update id text blocks)
  delete id := Host.metered "chat_driver" "delete_message" (d.delete id)
  whisper message := Host.metered "chat_driver" "send_ephemeral" (d.whisper message)

end ChatEngine
