import ChatEngine.Config.Basic
import ChatEngine.Event
import ChatEngine.Retry
import ChatEngine.Slack.Request

/-!
# Connections to Slack

The connection to Slack. Connecting authenticates and opens a socket; what the socket delivers
waits in a queue that is read as a stream of events. Rejected credentials are no error: they are
an event that ends the stream.
-/
namespace ChatEngine.Slack

variable {σ : Type}

/-- What Slack offers to a program. -/
structure Platform (σ : Type) where
  call : Request → Effect σ Reply
  /-- Opens the socket; the answer is what was delivered meanwhile. -/
  openSocket : (token appToken : String) → Effect σ (List Value)
  closeSocket : Effect σ Unit
  wait : (seconds : Float) → StateM σ Unit

/-- A connection, with the world it leads to. -/
structure Connection (σ : Type) where
  token : String
  appToken : String
  world : σ
  connected : Bool := false
  /-- How many times the credentials were accepted. -/
  count : Nat := 0
  queue : List Event := []
  log : Log := []

namespace Connection

/-- A connection that was not opened yet; it needs the token of the socket. -/
def create? (config : BotConfig) (world : σ) : Except ConfigurationError (Connection σ) := do
  return { token := config.token, appToken := ← config.socketToken, world }

def outside {α : Type} (act : Effect σ α) : Effect (Connection σ) α := Effect.of fun c =>
  let (result, world) := act.run c.world
  (result, { c with world })

def record (level : LogLevel) (event : String) (fields : List (String × Value) := []) :
    Effect (Connection σ) Unit :=
  Effect.change fun c => { c with log := ⟨level, event, fields⟩ :: c.log }

def enqueue (event : Event) : Effect (Connection σ) Unit :=
  Effect.change fun c => { c with queue := c.queue ++ [event] }

def receive (payload : Value) : Effect (Connection σ) Unit := do
  let event := MessageEvent.ofPayload payload
  enqueue (.message event)
  record .debug "message_event_received"
    [("channel_id", .ofOption event.channel), ("ts", .ofOption event.timestamp),
     ("subtype", .ofOption (event.subtype.filter (!·.isEmpty)))]

/-- Asks who the credentials belong to; passing failures are tried again. -/
def authenticate (p : Platform σ) : Effect (Connection σ) Reply :=
  RetryPolicy.run {}
    (fun entry seconds => do
      modify fun c => { c with log := entry :: c.log }
      let _ ← (outside (ExceptT.lift (p.wait seconds))).attempt)
    (fun _ => outside (p.call .authenticate))

def failed (fault : Fault) : Effect (Connection σ) Unit := do
  record .error "slack_connection_failed" [("error", .str fault.text)]
  throw ⟨.connection, "Failed to connect to Slack: " ++ fault.text⟩

/-- Opens the socket of an identity. The identity stands in the queue before anything that the
socket delivers. -/
def join (p : Platform σ) (data : Value) (latency : Float) : Effect (Connection σ) Unit := do
  let identity : Identity := ⟨data.textField "user_id" (some ""), data.textField "user" (some "")⟩
  Effect.change fun c => { c with count := c.count + 1 }
  enqueue .hello
  enqueue (.connected identity (← get).count)
  let c ← get
  match ← Effect.lift (outside (p.openSocket c.token c.appToken)).attempt with
  | .error fault => failed fault
  | .ok delivered =>
    delivered.forM receive
    Effect.change fun c => { c with connected := true }
    enqueue (.latency latency)
    record .info "slack_connected"
      [("team", (data.get? "team").getD .null), ("user_id", .ofOption identity.userId)]

def connect [Clocked σ] (p : Platform σ) : Effect (Connection σ) Unit := do
  if (← get).connected then return
  let start := Clocked.now (← get).world
  match ← Effect.lift (authenticate p).attempt with
  | .error fault => failed fault
  | .ok (.answer data) => join p data ((Clocked.now (← get).world - start) * 1000.0)
  | .ok (.refused code) =>
    if credentialRefusals.contains code then
      record .error "slack_auth_rejected" [("error", .str code)]
      enqueue .invalidAuth
    else
      throw ⟨.connection, "Failed to authenticate with Slack: " ++ refusalText code⟩

def disconnect (p : Platform σ) : Effect (Connection σ) Unit := do
  if !(← get).connected then return
  if let .error fault ← Effect.lift (outside p.closeSocket).attempt then
    record .warning "disconnect_error" [("error", .str fault.text)]
  Effect.change fun c => { c with connected := false }
  enqueue .termination
  record .info "slack_disconnected"

/-- Splits a queue after the first event that ends a stream. -/
def splitStream : List Event → List Event × List Event
  | [] => ([], [])
  | .termination :: rest => ([.termination], rest)
  | .invalidAuth :: rest => ([.invalidAuth], rest)
  | e :: rest =>
    let (stream, later) := splitStream rest
    (e :: stream, later)

/-- Reads what is queued, up to and with an event that ends the stream. -/
def readStream : StateM (Connection σ) (List Event) := fun c =>
  let (stream, queue) := splitStream c.queue
  (stream, { c with queue })

end Connection

end ChatEngine.Slack
