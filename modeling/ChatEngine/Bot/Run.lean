import ChatEngine.Bot.Basic

/-!
# Runs of a bot

A run of a bot: it connects, starts its workers and its scheduler, reads the stream until the
stream or the bot ends, and shuts down. Shutting down lets the workers finish what was routed,
releases the resources in reverse order and disconnects, whatever failed before.
-/
namespace ChatEngine

variable {σ : Type}

/-- What can be asked of a bot from outside. -/
inductive Request where
  | stop
  | signal (name : String)
  | run
  deriving DecidableEq, Repr

/-- What reading the stream meets: an event, a request from outside before the next event, or a
broken stream. -/
inductive StreamStep where
  | event (e : Event)
  | request (r : Request)
  | broken (message : String)

/-- A turn of the workers. -/
inductive Turn where
  /-- The worker of a partition does the first item of its queue. -/
  | first (partition : Nat)
  /-- The workers that were woken do everything in their queues, the first woken first. -/
  | woken
  deriving DecidableEq, Repr

/-- The turns that the workers take during one run. What they leave in the queues is done when the
run shuts down. -/
structure Pace where
  /-- After each step of the stream, by its number. -/
  between : Nat → List Turn
  /-- While the event of a step waits for room in a full queue. -/
  blocked : Nat → List Turn
  /-- When reading has ended. -/
  ended : List Turn
  /-- During the shutdown, before the queues get their end marks. -/
  unmarked : List Turn := []
  /-- During the shutdown, after that. -/
  marked : List Turn := []

namespace Pace

/-- Every event is processed to its end before the next step is read. -/
def settled : Pace where
  between _ := [.woken]
  blocked _ := [.woken]
  ended := [.woken]

/-- Workers only run when a queue is full or reading has ended. -/
def held : Pace := { settled with between := fun _ => [] }

def next (p : Pace) : Pace :=
  { p with between := fun n => p.between (n + 1), blocked := fun n => p.blocked (n + 1) }

end Pace

/-- What happens around a bot during one run. -/
structure RunScript where
  whileConnecting : List Request := []
  whileStarting : List Request := []
  stream : List StreamStep := []
  whileStopping : List Request := []
  pace : Pace := .settled

namespace Bot

abbrev Step (σ α : Type) := StateM (Bot σ) α

def onHost {α : Type} (act : StateM (Host σ) α) : Step σ α := fun b =>
  let (a, host) := act b.host
  (a, { b with host })

def record (level : LogLevel) (event : String) (fields : List (String × Value) := []) :
    Step σ Unit :=
  onHost (Host.record level event fields)

/-- Asks the bot to stop: reading ends if it has begun, and what was routed is still processed. -/
def stop : Step σ Unit := do
  let b ← get
  if b.running && !b.stopping then
    record .info "bot_stopping"
    modify fun b =>
      { b with
        stopping := true
        dispatcher := if b.dispatcher = .reading then .cancelled else b.dispatcher }

def meet : Request → Step σ Unit
  | .stop => stop
  | .signal name => do
    record .info "received_signal" [("signal", .str name)]
    stop
  | .run => do
    if (← get).running then record .warning "bot_already_running"

def meetAll : List Request → Step σ Unit
  | [] => pure ()
  | r :: rest => do
    meet r
    meetAll rest

section
variable [Clocked σ]

def process (event : MessageEvent) : Step σ (Except Fault Unit) := fun b =>
  let (result, s) := b.processor.process event ⟨b.tracker, b.host⟩
  (result, { b with tracker := s.tracker, host := s.host })

/-- What a worker does with an item of its queue; a fault is logged and the worker goes on. -/
def work (partition : Nat) : QueueItem → Step σ Unit
  | .stop => record .debug "worker_stopped"
  | .event e => do
    if let .error _ ← process e then
      record .error "message_processing_failed" [("partition", .int partition)]

def drain (partition : Nat) : Step σ Unit := do
  let b ← get
  match b.router with
  | none => pure ()
  | some router =>
    let items := router.queue partition
    set { b with router := some { router with queues := router.queues.set partition [] } }
    items.forM (work partition)

def drainAll : Step σ Unit := do
  let count := ((← get).router.map (·.queues.length)).getD 0
  (List.range count).forM drain

def wake (partition : Nat) : Step σ Unit :=
  modify fun b =>
    if b.woken.contains partition then b else { b with woken := b.woken ++ [partition] }

/-- Lets the workers that were woken do everything in their queues, the first woken first. -/
def drainWoken : Step σ Unit := do
  let b ← get
  set { b with woken := [] }
  b.woken.forM drain

def takeFirst (partition : Nat) : Step σ Unit := do
  let b ← get
  match b.router.bind (·.take? partition) with
  | none => pure ()
  | some (item, router) =>
    set { b with router := some router }
    work partition item

def takeTurn : Turn → Step σ Unit
  | .first partition => takeFirst partition
  | .woken => drainWoken

def takeTurns (turns : List Turn) : Step σ Unit := turns.forM takeTurn

/-- Lets a worker do the first item of its queue if the queue is full. -/
def makeRoom (partition : Nat) : Step σ Unit := do
  if ((← get).router.map (·.isFull partition)).getD false then takeFirst partition

/-- Puts an event on its partition's queue. If the queue is full, workers take the given turns, and
the partition's own worker one more if there is still no room. -/
def route (blocked : List Turn) (event : MessageEvent) : Step σ (Except Fault Unit) := do
  let some router := (← get).router | return .ok ()
  let start := Clocked.now (← get).host.world
  let arrived (partition : Nat) : Step σ (Except Fault Unit) := do
    onHost (modify fun h =>
      { h with metrics := h.metrics.observe .dispatch [] (Clocked.now h.world - start) })
    record .debug "message_dispatched"
      [("origin", .str event.originRef.text), ("partition", .int partition)]
    return .ok ()
  match router.route event with
  | (.refused cause, _) => return .error cause.fault
  | (.routed i, router) =>
    modify fun b => { b with router := some router }
    wake i
    arrived i
  | (.blocked, _) =>
    let i := (router.partitionOf event.originRef).toOption.getD 0
    takeTurns blocked
    makeRoom i
    modify fun b => { b with router := b.router.map (·.push i (.event event)) }
    wake i
    arrived i

/-- Handles an event; the answer is whether reading goes on. -/
def handle (blocked : List Turn) (event : Event) : Step σ (Except Fault Bool) := do
  match event with
  | .message e =>
    onHost (Host.count .messagesSeen)
    return (← route blocked e).map fun _ => true
  | .hello =>
    record .debug "hello_received"
    return .ok true
  | .connected identity count =>
    modify fun b => { b with identity := some identity }
    record .info "self_identity_discovered"
      [("user_id", .ofOption identity.userId), ("user_name", .ofOption identity.userName),
       ("connection_count", .int count)]
    return .ok true
  | .latency ms =>
    onHost (modify fun h =>
      { h with metrics := { h.metrics with latency := Gauge.set h.metrics.latency [] ms } })
    return .ok true
  | .transportError code message =>
    record .warning "rtm_error" [("code", .int code), ("message", .str message)]
    return .ok true
  | .invalidAuth =>
    record .error "invalid_auth"
    modify fun b => { b with invalidAuth := true }
    return .ok false
  | .termination =>
    record .info "termination_received"
    return .ok false
  | .unknown typeName =>
    record .warning "unknown_event_skipped" [("event_type", .str typeName)]
    return .ok true

/-- Reads the stream until it ends, an event ends the run, or reading is cancelled. -/
def dispatch (pace : Pace) : List StreamStep → Step σ (Except Fault Unit)
  | [] => do
    record .info "event_stream_ended"
    return .ok ()
  | step :: rest => do
    if (← get).dispatcher = .cancelled then return .ok ()
    match step with
    | .broken message => return .error (.runtime message)
    | .request r =>
      meet r
      if (← get).dispatcher = .cancelled then return .ok ()
      takeTurns (pace.between 0)
      dispatch pace.next rest
    | .event e =>
      match ← handle (pace.blocked 0) e with
      | .error fault => return .error fault
      | .ok false => return .ok ()
      | .ok true =>
        takeTurns (pace.between 0)
        dispatch pace.next rest

/-- Releases the resources in reverse order; one that fails is logged. -/
def runClosers : List (Closer σ) → Step σ Unit
  | [] => pure ()
  | c :: rest => do
    if let .error _ ← onHost c.close.attempt then
      record .error "closer_failed" [("closer", .str c.name)]
    runClosers rest

def startWorkers : Step σ Unit := do
  let count := ((← get).router.map (·.queues.length)).getD 0
  (List.range count).forM fun _ => record .debug "worker_started"

def closeRouter : Step σ Unit := do
  match (← get).router with
  | none => pure ()
  | some router =>
    match router.close? with
    | some router => modify fun b => { b with router := some router }
    | none =>
      drainAll
      modify fun b => { b with router := b.router.map fun r => r.close?.getD r }

/-- Lets workers that have not begun start, do their queue and stop, one after the other. -/
def startAndDrain : Step σ Unit := do
  let count := ((← get).router.map (·.queues.length)).getD 0
  (List.range count).forM fun i => do
    record .debug "worker_started"
    drain i

/-- Lets the workers do everything in their queues. Those that have begun take the given turns
first. -/
def complete (turns : List Turn) (begun : Bool) : Step σ Unit := do
  if begun then
    takeTurns turns
    drainAll
  else startAndDrain

/-- Shuts down: workers finish, the scheduler stops, resources are released, and the connection
is closed. `begun` says whether the workers had begun. -/
def shutdown (script : RunScript) (begun : Bool) : Step σ Unit := do
  record .debug "bot_shutting_down"
  meetAll script.whileStopping
  if (← get).dispatcher = .reading then modify fun b => { b with dispatcher := .cancelled }
  if begun then takeTurns script.pace.unmarked
  closeRouter
  if (← get).working then
    complete script.pace.marked begun
    modify fun b => { b with working := false }
  modify fun b => { b with scheduler := b.scheduler.map Scheduler.shutdown }
  runClosers (← get).closers.reverse
  match ← onHost (Host.outside (← get).given.disconnect).attempt with
  | .ok () => record .info "chat_disconnected"
  | .error fault => record .warning "chat_disconnect_error" [("error", .str fault.text)]
  modify fun b => { b with running := false }
  record .info "bot_stopped" [("invalid_auth", .bool (← get).invalidAuth)]

/-- Connects, starts and reads the stream; the answer is the fault that ended it, if any, and
whether the workers had begun. -/
def serve (script : RunScript) : Step σ (Except Fault Unit × Bool) := do
  meetAll script.whileConnecting
  if let .error fault ← onHost (Host.outside (← get).given.connect).attempt then
    return (.error fault, false)
  record .info "chat_connected"
  let config := (← get).config
  match Router.create? config.messagePartitionCount config.messageQueueBufferSize with
  | .error cause => return (.error cause.fault, false)
  | .ok router =>
    modify fun b => { b with router := some router, working := true }
    meetAll script.whileStarting
    let (scheduler, failure) ←
      onHost (Scheduler.start { actions := (← get).registry.schedules })
    modify fun b => { b with scheduler := some scheduler }
    if let some e := failure then return (.error e.fault, false)
    if (← get).given.handleSignals then
      record .debug "signal_handler_registered" [("signal", .str "SIGTERM")]
      record .debug "signal_handler_registered" [("signal", .str "SIGINT")]
    record .info "bot_started"
    modify fun b => { b with dispatcher := .reading }
    startWorkers
    let result ← dispatch script.pace script.stream
    takeTurns script.pace.ended
    modify fun b => { b with dispatcher := .finished }
    return (result, true)

/-- Runs the bot; the answer is the fault that ended the run, if any. A bot that runs already
only says so. -/
def run (script : RunScript) : Step σ (Except Fault Unit) := do
  let b ← get
  if b.running then
    record .warning "bot_already_running"
    return .ok ()
  record .info "bot_starting"
    [("name", b.name.value), ("partitions", .int b.config.messagePartitionCount),
     ("plugins", .list (b.registry.plugins.map fun p => .str p.name))]
  modify fun b =>
    { b with
      registry := b.registry.close.inject b.services
      host := { b.host with profiles := profileCache b.config.userInfoCacheSize }
      running := true
      stopping := false
      invalidAuth := false }
  let (result, begun) ← serve script
  shutdown script begun
  return result

end

end Bot

end ChatEngine
