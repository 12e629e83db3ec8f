import ChatEngine.Proofs.BlindRuns

/-!
# Traced runs

A run does four things that others can tell: it connects, it hands messages to the processor, it
releases resources, and it disconnects. This file writes the steps of a run down once more so that
they record these acts where they do them, and shows that the record changes nothing: a traced step
ends like the step that it mirrors (`Mirrors`). What a traced step does from some bot, and which acts
that takes, is put together from what its parts do (`Does`).
-/

namespace ChatEngine.Bot

variable {σ α β : Type}

/-! ### Acts -/

/-- What a run does that others can tell. -/
inductive Act (σ : Type) where
  | connect
  | process (e : MessageEvent)
  | close (c : Closer σ)
  | disconnect

/-- The call that an act is: messages are handed to the processor, with the tracker and the host as
they are. -/
def Act.step [Clocked σ] : Act σ → Step σ (Except Fault Unit)
  | .connect => do onHost (Host.outside (← get).given.connect).attempt
  | .process e => fun b =>
    let (result, s) := b.processor.process e ⟨b.tracker, b.host⟩
    (result, { b with tracker := s.tracker, host := s.host })
  | .close c => onHost c.close.attempt
  | .disconnect => do onHost (Host.outside (← get).given.disconnect).attempt

/-! ### Parts of a run -/

/-- Tells the task that reads the stream to stop. -/
def cease : Step σ Unit := do
  if (← get).dispatcher = .reading then modify fun b => { b with dispatcher := .cancelled }

/-- Starts the scheduler; the answer is what ended the start, if anything. -/
def startScheduler : Step σ (Option Scheduler.StartError) := do
  let (scheduler, failure) ←
    onHost (Scheduler.start { actions := (← get).registry.schedules })
  modify fun b => { b with scheduler := some scheduler }
  return failure

/-- Says that everything has started. -/
def announce : Step σ Unit := do
  if (← get).given.handleSignals then
    record .debug "signal_handler_registered" [("signal", .str "SIGTERM")]
    record .debug "signal_handler_registered" [("signal", .str "SIGINT")]
  record .info "bot_started"

section
variable [Clocked σ]

/-- Disconnects; a failure is logged. -/
def hangUp : Step σ Unit := do
  match ← Act.disconnect.step with
  | .ok () => record .info "chat_disconnected"
  | .error fault => record .warning "chat_disconnect_error" [("error", .str fault.text)]

/-- What a shutdown does after the workers have finished. -/
def leave : Step σ Unit := do
  modify fun b => { b with scheduler := b.scheduler.map Scheduler.shutdown }
  runClosers (← get).closers.reverse
  hangUp
  modify fun b => { b with running := false }
  record .info "bot_stopped" [("invalid_auth", .bool (← get).invalidAuth)]

/-- Lets workers that have begun take turns before the queues get their end marks. -/
def linger (turns : List Turn) (begun : Bool) : Step σ Unit := do
  if begun then takeTurns turns

/-- Lets the workers finish, if there are any. -/
def finish (turns : List Turn) (begun : Bool) : Step σ Unit := do
  if (← get).working then
    complete turns begun
    modify fun b => { b with working := false }

/-- Reads the stream after everything has started. -/
def listen (script : RunScript) : Step σ (Except Fault Unit) := do
  announce
  modify fun b => { b with dispatcher := .reading }
  startWorkers
  let result ← dispatch script.pace script.stream
  takeTurns script.pace.ended
  modify fun b => { b with dispatcher := .finished }
  return result

/-- Starts everything and reads the stream, once there is a router. -/
def serveRouted (script : RunScript) (router : Router) : Step σ (Except Fault Unit × Bool) := do
  modify fun b => { b with router := some router, working := true }
  meetAll script.whileStarting
  match ← startScheduler with
  | some e => return (.error e.fault, false)
  | none => return (← listen script, true)

/-- Starts everything and reads the stream, once connected. -/
def serveConnected (script : RunScript) : Step σ (Except Fault Unit × Bool) := do
  record .info "chat_connected"
  let b ← get
  match Router.create? b.config.messagePartitionCount b.config.messageQueueBufferSize with
  | .error cause => return (.error cause.fault, false)
  | .ok router => serveRouted script router

omit [Clocked σ] in
lemma join (c : Prop) [Decidable c] (step : Step σ Unit) (f : Unit → Step σ α) :
    (if c then step >>= f else f ()) = (if c then step else pure ()) >>= f := by
  split <;> rfl

omit [Clocked σ] in
lemma join_both (c : Prop) [Decidable c] (first last : Step σ Unit) (f : Unit → Step σ α) :
    (if c then first >>= fun _ => last >>= f else f ()) =
      (if c then first >>= fun _ => last else pure ()) >>= f := by
  split <;> rfl

lemma shutdown_eq (script : RunScript) (begun : Bool) :
    shutdown script begun = (do
      record .debug "bot_shutting_down"
      meetAll script.whileStopping
      cease
      linger script.pace.unmarked begun
      closeRouter
      finish script.pace.marked begun
      leave : Step σ Unit) := by
  -- Every branch goes on with the rest of the shutdown, which `join` takes out of the branches.
  unfold shutdown cease linger finish leave
  refine bind_congr fun _ => bind_congr fun _ => ?_
  rw [bind_assoc]
  refine bind_congr fun b => (join _ _ _).trans (bind_congr fun _ => ?_)
  refine (join _ _ _).trans (bind_congr fun _ => bind_congr fun _ => ?_)
  rw [bind_assoc]
  refine bind_congr fun b => ?_
  refine (join_both _ _ _ _).trans (bind_congr fun _ => ?_)
  refine bind_congr fun _ => bind_congr fun _ => bind_congr fun _ => ?_
  unfold hangUp Act.step
  rw [bind_assoc, bind_assoc]
  refine bind_congr fun b => bind_congr fun result => ?_
  cases result <;> rfl

lemma serve_eq (script : RunScript) :
    serve script = (do
      meetAll script.whileConnecting
      match ← Act.connect.step with
      | .error fault => return (.error fault, false)
      | .ok () => serveConnected script : Step σ (Except Fault Unit × Bool)) := by
  unfold serve Act.step
  refine bind_congr fun _ => ?_
  rw [bind_assoc]
  refine bind_congr fun _ => bind_congr fun result => ?_
  cases result with
  | error fault => rfl
  | ok =>
    refine bind_congr fun _ => bind_congr fun _ => ?_
    dsimp only
    cases Router.create? _ _ with
    | error cause => rfl
    | ok router =>
      refine bind_congr fun _ => bind_congr fun _ => ?_
      unfold startScheduler
      simp only [bind_assoc]
      refine bind_congr fun _ => bind_congr fun started => bind_congr fun _ => ?_
      rw [pure_bind]
      cases started.2 with
      | some e => rfl
      | none =>
        dsimp only
        unfold listen announce
        simp only [bind_assoc, pure_bind]
        refine bind_congr fun _ => ?_
        split <;> rfl

end

/-! ### Traced steps -/

/-- A step of a bot that records its acts. -/
abbrev Traced (σ α : Type) := StateT (List (Act σ)) (Step σ) α

namespace Traced

/-- A step without an act. -/
def plain (step : Step σ α) : Traced σ α := fun acts => (·, acts) <$> step

section
variable [Clocked σ]

/-- An act, which is put on record. -/
def act (a : Act σ) : Traced σ (Except Fault Unit) := fun acts => (·, acts ++ [a]) <$> a.step

def work (partition : Nat) : QueueItem → Traced σ Unit
  | .stop => plain (record .debug "worker_stopped")
  | .event e => do
    if let .error _ ← act (.process e) then
      plain (record .error "message_processing_failed" [("partition", .int partition)])

def drain (partition : Nat) : Traced σ Unit := do
  let b ← plain get
  match b.router with
  | none => pure ()
  | some router =>
    let items := router.queue partition
    plain (set { b with router := some { router with queues := router.queues.set partition [] } })
    items.forM (work partition)

def drainAll : Traced σ Unit := do
  let count := ((← plain get).router.map (·.queues.length)).getD 0
  (List.range count).forM drain

def drainWoken : Traced σ Unit := do
  let b ← plain get
  plain (set { b with woken := [] })
  b.woken.forM drain

def takeFirst (partition : Nat) : Traced σ Unit := do
  let b ← plain get
  match b.router.bind (·.take? partition) with
  | none => pure ()
  | some (item, router) =>
    plain (set { b with router := some router })
    work partition item

def takeTurn : Turn → Traced σ Unit
  | .first partition => takeFirst partition
  | .woken => drainWoken

def takeTurns (turns : List Turn) : Traced σ Unit := turns.forM takeTurn

def makeRoom (partition : Nat) : Traced σ Unit := do
  if ((← plain get).router.map (·.isFull partition)).getD false then takeFirst partition

def enqueue (blocked : List Turn) (start : Float) (e : MessageEvent) (router : Router) :
    Traced σ (Except Fault Unit) :=
  match router.route e with
  | (.refused cause, _) => return .error cause.fault
  | (.routed i, router) => do
    plain (modify fun b => { b with router := some router })
    plain (wake i)
    plain (noteRouted start e i)
  | (.blocked, _) => do
    let i := (router.partitionOf e.originRef).toOption.getD 0
    takeTurns blocked
    makeRoom i
    plain (modify fun b => { b with router := b.router.map (·.push i (.event e)) })
    plain (wake i)
    plain (noteRouted start e i)

def route (blocked : List Turn) (e : MessageEvent) : Traced σ (Except Fault Unit) := do
  let b ← plain get
  match b.router with
  | none => return .ok ()
  | some router => enqueue blocked (Clocked.now b.host.world) e router

def handle (blocked : List Turn) : Event → Traced σ (Except Fault Bool)
  | .message e => do
    plain (onHost (Host.count .messagesSeen))
    return (← route blocked e).map fun _ => true
  | event => plain (Bot.handle blocked event)

def dispatch (pace : Pace) : List StreamStep → Traced σ (Except Fault Unit)
  | [] => do
    plain (record .info "event_stream_ended")
    return .ok ()
  | step :: rest => do
    if (← plain get).dispatcher = .cancelled then return .ok ()
    match step with
    | .broken message => return .error (.runtime message)
    | .request r =>
      plain (meet r)
      if (← plain get).dispatcher = .cancelled then return .ok ()
      takeTurns (pace.between 0)
      dispatch pace.next rest
    | .event e =>
      match ← handle (pace.blocked 0) e with
      | .error fault => return .error fault
      | .ok false => return .ok ()
      | .ok true =>
        takeTurns (pace.between 0)
        dispatch pace.next rest

def runClosers : List (Closer σ) → Traced σ Unit
  | [] => pure ()
  | c :: rest => do
    if let .error _ ← act (.close c) then
      plain (record .error "closer_failed" [("closer", .str c.name)])
    runClosers rest

def closeRouter : Traced σ Unit := do
  match (← plain get).router with
  | none => pure ()
  | some router =>
    match router.close? with
    | some router => plain (modify fun b => { b with router := some router })
    | none =>
      drainAll
      plain (modify fun b => { b with router := b.router.map fun r => r.close?.getD r })

def startAndDrain : Traced σ Unit := do
  let count := ((← plain get).router.map (·.queues.length)).getD 0
  (List.range count).forM fun i => do
    plain (record .debug "worker_started")
    drain i

def linger (turns : List Turn) (begun : Bool) : Traced σ Unit := do
  if begun then takeTurns turns

def complete (turns : List Turn) (begun : Bool) : Traced σ Unit := do
  if begun then
    takeTurns turns
    drainAll
  else startAndDrain

def finish (turns : List Turn) (begun : Bool) : Traced σ Unit := do
  if (← plain get).working then
    complete turns begun
    plain (modify fun b => { b with working := false })

def hangUp : Traced σ Unit := do
  match ← act .disconnect with
  | .ok () => plain (record .info "chat_disconnected")
  | .error fault => plain (record .warning "chat_disconnect_error" [("error", .str fault.text)])

def leave : Traced σ Unit := do
  plain (modify fun b => { b with scheduler := b.scheduler.map Scheduler.shutdown })
  runClosers (← plain get).closers.reverse
  hangUp
  plain (modify fun b => { b with running := false })
  plain (record .info "bot_stopped" [("invalid_auth", .bool (← plain get).invalidAuth)])

def shutdown (script : RunScript) (begun : Bool) : Traced σ Unit := do
  plain (record .debug "bot_shutting_down")
  plain (meetAll script.whileStopping)
  plain cease
  linger script.pace.unmarked begun
  closeRouter
  finish script.pace.marked begun
  leave

def listen (script : RunScript) : Traced σ (Except Fault Unit) := do
  plain announce
  plain (modify fun b => { b with dispatcher := .reading })
  plain startWorkers
  let result ← dispatch script.pace script.stream
  takeTurns script.pace.ended
  plain (modify fun b => { b with dispatcher := .finished })
  return result

def serveRouted (script : RunScript) (router : Router) :
    Traced σ (Except Fault Unit × Bool) := do
  plain (modify fun b => { b with router := some router, working := true })
  plain (meetAll script.whileStarting)
  match ← plain startScheduler with
  | some e => return (.error e.fault, false)
  | none => return (← listen script, true)

def serveConnected (script : RunScript) : Traced σ (Except Fault Unit × Bool) := do
  plain (record .info "chat_connected")
  let b ← plain get
  match Router.create? b.config.messagePartitionCount b.config.messageQueueBufferSize with
  | .error cause => return (.error cause.fault, false)
  | .ok router => serveRouted script router

def serve (script : RunScript) : Traced σ (Except Fault Unit × Bool) := do
  plain (meetAll script.whileConnecting)
  match ← act .connect with
  | .error fault => return (.error fault, false)
  | .ok () => serveConnected script

def run (script : RunScript) : Traced σ (Except Fault Unit) := do
  let b ← plain get
  if b.running then
    plain (record .warning "bot_already_running")
    return .ok ()
  plain (record .info "bot_starting"
    [("name", b.name.value), ("partitions", .int b.config.messagePartitionCount),
     ("plugins", .list (b.registry.plugins.map fun p => .str p.name))])
  plain (modify fun b =>
    { b with
      registry := b.registry.close.inject b.services
      host := { b.host with profiles := profileCache b.config.userInfoCacheSize }
      running := true
      stopping := false
      invalidAuth := false })
  let (result, begun) ← serve script
  shutdown script begun
  return result

end

/-! ### The record changes nothing -/

/-- Whether a traced step ends like a step, whatever is on record. -/
def Mirrors (t : Traced σ α) (step : Step σ α) : Prop :=
  ∀ acts b, ((t acts b).1.1, (t acts b).2) = step b

namespace Mirrors

lemma pure (a : α) : Mirrors (Pure.pure a : Traced σ α) (Pure.pure a) := fun _ _ => rfl

lemma plain (step : Step σ α) : Mirrors (Traced.plain step) step := fun _ _ => rfl

lemma act [Clocked σ] (a : Act σ) : Mirrors (Traced.act a) a.step := fun _ _ => rfl

lemma bind {t : Traced σ α} {step : Step σ α} {f : α → Traced σ β} {g : α → Step σ β}
    (h : Mirrors t step) (hf : ∀ a, Mirrors (f a) (g a)) : Mirrors (t >>= f) (step >>= g) := by
  intro acts b
  rw [bind_apply, ← h acts b]
  exact hf _ _ _

lemma forM {l : List α} {f : α → Traced σ Unit} {g : α → Step σ Unit}
    (hf : ∀ a, Mirrors (f a) (g a)) : Mirrors (l.forM f) (l.forM g) := by
  induction l with
  | nil => exact pure ()
  | cons a rest ih => exact (hf a).bind fun _ => ih

end Mirrors

section
variable [Clocked σ]

lemma work_mirrors (partition : Nat) (item : QueueItem) :
    Mirrors (work partition item : Traced σ Unit) (Bot.work partition item) := by
  cases item with
  | stop => exact .plain _
  | event e =>
    refine .bind (.act _) fun result => ?_
    cases result with
    | error fault => exact .plain _
    | ok => exact .pure ()

lemma drain_mirrors (partition : Nat) :
    Mirrors (drain partition : Traced σ Unit) (Bot.drain partition) := by
  refine .bind (.plain _) fun b => ?_
  cases b.router with
  | none => exact .pure ()
  | some router => exact .bind (.plain _) fun _ => .forM (work_mirrors partition)

lemma drainAll_mirrors : Mirrors (drainAll : Traced σ Unit) Bot.drainAll :=
  .bind (.plain _) fun _ => .forM drain_mirrors

lemma drainWoken_mirrors : Mirrors (drainWoken : Traced σ Unit) Bot.drainWoken :=
  .bind (.plain _) fun _ => .bind (.plain _) fun _ => .forM drain_mirrors

lemma takeFirst_mirrors (partition : Nat) :
    Mirrors (takeFirst partition : Traced σ Unit) (Bot.takeFirst partition) := by
  refine .bind (.plain _) fun b => ?_
  rcases b.router.bind (·.take? partition) with _ | ⟨item, router⟩
  · exact .pure ()
  · exact .bind (.plain _) fun _ => work_mirrors partition item

lemma takeTurns_mirrors (turns : List Turn) :
    Mirrors (takeTurns turns : Traced σ Unit) (Bot.takeTurns turns) := by
  refine .forM fun turn => ?_
  cases turn with
  | first partition => exact takeFirst_mirrors partition
  | woken => exact drainWoken_mirrors

lemma makeRoom_mirrors (partition : Nat) :
    Mirrors (makeRoom partition : Traced σ Unit) (Bot.makeRoom partition) := by
  refine .bind (.plain _) fun b => ?_
  split
  · exact takeFirst_mirrors partition
  · exact .pure ()

lemma enqueue_mirrors (blocked : List Turn) (start : Float) (e : MessageEvent) (router : Router) :
    Mirrors (enqueue blocked start e router : Traced σ (Except Fault Unit))
      (Bot.enqueue blocked start e router) := by
  unfold enqueue Bot.enqueue
  rcases router.route e with ⟨i | _ | cause, next⟩
  · exact .bind (.plain _) fun _ => .bind (.plain _) fun _ => .plain _
  · exact .bind (takeTurns_mirrors blocked) fun _ => .bind (makeRoom_mirrors _) fun _ =>
      .bind (.plain _) fun _ => .bind (.plain _) fun _ => .plain _
  · exact .pure _

lemma route_mirrors (blocked : List Turn) (e : MessageEvent) :
    Mirrors (route blocked e : Traced σ (Except Fault Unit)) (Bot.route blocked e) := by
  intro acts b
  change (let t : Traced σ (Except Fault Unit) := match b.router with
    | none => return .ok ()
    | some router => enqueue blocked (Clocked.now b.host.world) e router
    ((t acts b).1.1, (t acts b).2)) = _
  rcases Option.eq_none_or_eq_some b.router with h | ⟨router, h⟩
  · rw [route_of_absent h, h]
    rfl
  · rw [route_of_present h, h]
    exact enqueue_mirrors blocked _ e router acts b

lemma handle_mirrors (blocked : List Turn) (event : Event) :
    Mirrors (handle blocked event : Traced σ (Except Fault Bool)) (Bot.handle blocked event) := by
  cases event with
  | message e => exact .bind (.plain _) fun _ => .bind (route_mirrors blocked e) fun _ => .pure _
  | _ => exact .plain _

lemma dispatch_mirrors (pace : Pace) (steps : List StreamStep) :
    Mirrors (dispatch pace steps : Traced σ (Except Fault Unit)) (Bot.dispatch pace steps) := by
  induction steps generalizing pace with
  | nil => exact .bind (.plain _) fun _ => .pure _
  | cons step rest ih =>
    unfold dispatch Bot.dispatch
    refine .bind (.plain _) fun b => ?_
    split
    · exact .pure _
    cases step with
    | broken message => exact .pure _
    | request r =>
      refine .bind (.plain _) fun _ => .bind (.plain _) fun b => ?_
      split
      · exact .pure _
      · exact .bind (takeTurns_mirrors _) fun _ => ih pace.next
    | event e =>
      refine .bind (handle_mirrors _ e) fun result => ?_
      rcases result with fault | (_ | _)
      · exact .pure _
      · exact .pure _
      · exact .bind (takeTurns_mirrors _) fun _ => ih pace.next

lemma runClosers_mirrors (closers : List (Closer σ)) :
    Mirrors (runClosers closers) (Bot.runClosers closers) := by
  induction closers with
  | nil => exact .pure ()
  | cons c rest ih =>
    refine .bind (.act _) fun result => ?_
    cases result with
    | error fault => exact .bind (.plain _) fun _ => ih
    | ok => exact ih

lemma closeRouter_mirrors : Mirrors (closeRouter : Traced σ Unit) Bot.closeRouter := by
  refine .bind (.plain _) fun b => ?_
  cases b.router with
  | none => exact .pure ()
  | some router =>
    dsimp only
    cases router.close? with
    | some closed => exact .plain _
    | none => exact .bind drainAll_mirrors fun _ => .plain _

lemma startAndDrain_mirrors : Mirrors (startAndDrain : Traced σ Unit) Bot.startAndDrain :=
  .bind (.plain _) fun _ => .forM fun i => .bind (.plain _) fun _ => drain_mirrors i

lemma linger_mirrors (turns : List Turn) (begun : Bool) :
    Mirrors (linger turns begun : Traced σ Unit) (Bot.linger turns begun) := by
  cases begun with
  | true => exact takeTurns_mirrors turns
  | false => exact .pure ()

lemma complete_mirrors (turns : List Turn) (begun : Bool) :
    Mirrors (complete turns begun : Traced σ Unit) (Bot.complete turns begun) := by
  cases begun with
  | true => exact .bind (takeTurns_mirrors turns) fun _ => drainAll_mirrors
  | false => exact startAndDrain_mirrors

lemma finish_mirrors (turns : List Turn) (begun : Bool) :
    Mirrors (finish turns begun : Traced σ Unit) (Bot.finish turns begun) := by
  refine .bind (.plain _) fun b => ?_
  split
  · exact .bind (complete_mirrors turns begun) fun _ => .plain _
  · exact .pure ()

lemma leave_mirrors : Mirrors (leave : Traced σ Unit) Bot.leave := by
  refine .bind (.plain _) fun _ => .bind (.plain _) fun _ => .bind (runClosers_mirrors _) fun _ =>
    .bind ?_ fun _ => .bind (.plain _) fun _ => .bind (.plain _) fun _ => .plain _
  refine .bind (.act _) fun result => ?_
  cases result <;> exact .plain _

lemma shutdown_mirrors (script : RunScript) (begun : Bool) :
    Mirrors (shutdown script begun : Traced σ Unit) (Bot.shutdown script begun) := by
  rw [shutdown_eq]
  exact .bind (.plain _) fun _ => .bind (.plain _) fun _ => .bind (.plain _) fun _ =>
    .bind (linger_mirrors _ begun) fun _ => .bind closeRouter_mirrors fun _ =>
      .bind (finish_mirrors _ begun) fun _ => leave_mirrors

lemma listen_mirrors (script : RunScript) :
    Mirrors (listen script : Traced σ (Except Fault Unit)) (Bot.listen script) :=
  .bind (.plain _) fun _ => .bind (.plain _) fun _ => .bind (.plain _) fun _ =>
    .bind (dispatch_mirrors _ _) fun _ => .bind (takeTurns_mirrors _) fun _ =>
      .bind (.plain _) fun _ => .pure _

lemma serveRouted_mirrors (script : RunScript) (router : Router) :
    Mirrors (serveRouted script router : Traced σ (Except Fault Unit × Bool))
      (Bot.serveRouted script router) := by
  refine .bind (.plain _) fun _ => .bind (.plain _) fun _ => .bind (.plain _) fun failure => ?_
  cases failure with
  | some e => exact .pure _
  | none => exact .bind (listen_mirrors script) fun _ => .pure _

lemma serveConnected_mirrors (script : RunScript) :
    Mirrors (serveConnected script : Traced σ (Except Fault Unit × Bool))
      (Bot.serveConnected script) := by
  refine .bind (.plain _) fun _ => .bind (.plain _) fun b => ?_
  cases Router.create? b.config.messagePartitionCount b.config.messageQueueBufferSize with
  | error cause => exact .pure _
  | ok router => exact serveRouted_mirrors script router

lemma serve_mirrors (script : RunScript) :
    Mirrors (serve script : Traced σ (Except Fault Unit × Bool)) (Bot.serve script) := by
  rw [serve_eq]
  refine .bind (.plain _) fun _ => .bind (.act _) fun result => ?_
  cases result with
  | error fault => exact .pure _
  | ok => exact serveConnected_mirrors script

/-- A traced run ends like the run. -/
theorem run_mirrors (script : RunScript) :
    Mirrors (run script : Traced σ (Except Fault Unit)) (Bot.run script) := by
  unfold run Bot.run
  refine .bind (.plain _) fun b => ?_
  split
  · exact .bind (.plain _) fun _ => .pure _
  · exact .bind (.plain _) fun _ => .bind (.plain _) fun _ => .bind (serve_mirrors script) fun _ =>
      .bind (shutdown_mirrors script _) fun _ => .pure _

end

/-! ### What a traced step does -/

/-- Whether a traced step from a bot gives some answer, takes some acts and leaves some bot. -/
def Does (t : Traced σ α) (b : Bot σ) (a : α) (acts : List (Act σ)) (b' : Bot σ) : Prop :=
  ∀ past, t past b = ((a, past ++ acts), b')

namespace Does

variable {b b' b'' : Bot σ} {acts acts' : List (Act σ)}

lemma pure (a : α) (b : Bot σ) : Does (Pure.pure a) b a [] b := by
  intro past
  rw [List.append_nil]
  rfl

lemma plain (step : Step σ α) (b : Bot σ) : Does (Traced.plain step) b (step b).1 [] (step b).2 := by
  intro past
  rw [List.append_nil]
  rfl

lemma act [Clocked σ] (a : Act σ) (b : Bot σ) :
    Does (Traced.act a) b (a.step b).1 [a] (a.step b).2 := fun _ => rfl

lemma bind {t : Traced σ α} {f : α → Traced σ β} {a : α} {c : β} (h : Does t b a acts b')
    (hf : Does (f a) b' c acts' b'') : Does (t >>= f) b c (acts ++ acts') b'' := by
  intro past
  change f (t past b).1.1 (t past b).1.2 (t past b).2 = _
  rw [h past, hf, List.append_assoc]

/-- The step that is mirrored gives the same answer and leaves the same bot. -/
lemma mirrored {t : Traced σ α} {step : Step σ α} {a : α} (h : Does t b a acts b')
    (hm : Mirrors t step) : step b = (a, b') := by
  rw [← hm [] b, h []]

end Does

end Traced

end ChatEngine.Bot
