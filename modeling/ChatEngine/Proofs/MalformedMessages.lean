import ChatEngine.Proofs.BlindRuns

/-!
# Malformed messages

A message is routed before it is checked. What the check refuses is skipped by the worker that gets
it: no driver is called, and the rest of the stream is read as if it had not been there. But a
message whose channel is null, or whose original message has a null timestamp, does not get that far:
it has no partition, so reading ends with a fault.
-/

namespace ChatEngine

lemma forM_singleton {σ α : Type} (act : α → StateM σ Unit) (a : α) (s : σ) :
    [a].forM act s = act a s := rfl

namespace Bot

variable {σ : Type}

/-- A bot between two events that are each processed to the end: its router is open, and nothing
waits. -/
structure Quiet (b : Bot σ) (r : Router) : Prop where
  routing : b.router = some r
  sized : r.Sized
  isOpen : r.closed = false
  empty : ∀ i, r.queue i = []
  unwoken : b.woken = []

/-- So is a bot with a new router. -/
lemma Quiet.of_created {b : Bot σ} {r : Router} {partitions buffer : Int}
    (created : Router.create? partitions buffer = .ok r) (routing : b.router = some r)
    (unwoken : b.woken = []) : b.Quiet r := by
  obtain ⟨sized, isOpen, empty, -⟩ := Router.create?_cases created
  exact ⟨routing, sized, isOpen, empty, unwoken⟩

lemma Quiet.of_eq {b b' : Bot σ} {r : Router} (h : b.Quiet r) (hrouter : b'.router = b.router)
    (hwoken : b'.woken = b.woken) : b'.Quiet r :=
  ⟨hrouter.trans h.routing, h.sized, h.isOpen, h.empty, hwoken.trans h.unwoken⟩

lemma wake_of_unwoken {b : Bot σ} (h : b.woken = []) (partition : Nat) :
    wake partition b = ((), { b with woken := [partition] }) := by
  unfold wake
  change ((), if b.woken.contains partition then b else _) = _
  rw [h]
  rfl

variable [Clocked σ]

lemma drainWoken_of_unwoken {b : Bot σ} (h : b.woken = []) : drainWoken b = ((), b) := by
  have hsame : { b with woken := [] } = b := by rw [← h]
  unfold drainWoken
  rw [get_bind_apply]
  rw [h]
  exact congrArg (Prod.mk ()) hsame

lemma drainWoken_of_one {b : Bot σ} {partition : Nat} (h : b.woken = [partition]) :
    drainWoken b = drain partition { b with woken := [] } := by
  unfold drainWoken
  rw [get_bind_apply]
  rw [h]
  rfl

/-- Workers that are given turns at a quiet bot have nothing to do. -/
lemma Quiet.takeTurns {b : Bot σ} {r : Router} (h : b.Quiet r) (turns : List Turn) :
    takeTurns turns b = ((), b) := by
  have hturn (turn : Turn) : takeTurn turn b = ((), b) := by
    cases turn with
    | first partition =>
      refine takeFirst_of_none ?_
      rw [h.routing, Option.bind_some, Router.take?, h.empty partition]
    | woken => exact drainWoken_of_unwoken h.unwoken
  induction turns with
  | nil => rfl
  | cons turn rest ih =>
    change (takeTurn turn >>= fun _ => Bot.takeTurns rest) b = _
    rw [bind_apply, hturn]
    exact ih

lemma takeTurns_settled (b : Bot σ) : takeTurns (Pace.settled.between 0) b = drainWoken b := rfl

lemma Quiet.makeRoom {b : Bot σ} {r : Router} (h : b.Quiet r) (partition : Nat) :
    makeRoom partition b = ((), b) := by
  unfold Bot.makeRoom
  rw [get_bind_apply]
  split
  · exact h.takeTurns [.first partition]
  · rfl

/-- Whatever a worker does with an item of its queue, it changes the tracker and the host alone. -/
lemma work_frame (partition : Nat) (item : QueueItem) (b : Bot σ) :
    ∃ tracker host, (work partition item b).2 = { b with tracker, host } := by
  cases item with
  | stop => exact ⟨b.tracker, _, rfl⟩
  | event e =>
    rw [work_event, process_apply]
    dsimp only
    cases (b.processor.process e ⟨b.tracker, b.host⟩).1 with
    | error fault => exact ⟨_, _, rfl⟩
    | ok => exact ⟨_, _, rfl⟩

/-- A worker that gets a malformed message changes nothing but the metrics and the log. -/
lemma work_malformed {e : MessageEvent} {refusal : MalformedEvent}
    (rejected : e.validate = .error refusal) (partition : Nat) (b : Bot σ) :
    ∃ host, b.host.Alike host ∧ work partition (.event e) b = ((), { b with host }) := by
  obtain ⟨hobserved, quiet⟩ := b.processor.ineffective_of_malformed rejected ⟨b.tracker, b.host⟩
  have hresult : (b.processor.process e ⟨b.tracker, b.host⟩).1 = .ok () := by
    rw [Processor.process_apply, hobserved]
  rw [← Processor.process_state] at quiet
  refine ⟨_, quiet.host, ?_⟩
  rw [work_event, process_apply]
  dsimp only
  rw [hresult, ← quiet.tracker]

/-! ### Routing -/

lemma enqueue_fst {r : Router} (isOpen : r.closed = false) (blocked : List Turn)
    (e : MessageEvent) (start : Float) (b : Bot σ) :
    (enqueue blocked start e r b).1 =
      match r.partitionOf e.originRef with
      | .ok _ => .ok ()
      | .error cause => .error cause.fault := by
  unfold enqueue Router.route
  rw [isOpen]
  cases r.partitionOf e.originRef with
  | error cause => rfl
  | ok i =>
    dsimp only
    cases r.isFull i <;> rfl

/-- Reading goes on after a message exactly if there is a partition for it. -/
lemma handle_message_fst {b : Bot σ} {r : Router} (routing : b.router = some r)
    (isOpen : r.closed = false) (blocked : List Turn) (e : MessageEvent) :
    (handle blocked (.message e) b).1 =
      match r.partitionOf e.originRef with
      | .ok _ => .ok true
      | .error cause => .error cause.fault := by
  let counted := (onHost (Host.count .messagesSeen) b).2
  have hrouted := route_of_present (b := counted) routing blocked e
  have hresult : (handle blocked (.message e) b).1 =
    (route blocked e counted).1.map fun _ => true := rfl
  rw [hresult, hrouted, enqueue_fst isOpen]
  cases r.partitionOf e.originRef <;> rfl

section
variable {b : Bot σ} {r : Router} {e : MessageEvent} {i : Nat}

lemma note_of_unwoken (h : b.woken = []) (start : Float) (e : MessageEvent) (i : Nat) :
    ∃ host, b.host.Alike host ∧
      (do wake i; noteRouted start e i : Step σ (Except Fault Unit)) b =
        (.ok (), { b with host, woken := [i] }) := by
  rw [bind_apply, wake_of_unwoken h]
  exact ⟨(noteRouted start e i b).2.host, ⟨rfl, rfl⟩, rfl⟩

lemma enqueue_of_quiet (h : b.Quiet r) (hi : r.partitionOf e.originRef = .ok i)
    (blocked : List Turn) (start : Float) :
    ∃ host, b.host.Alike host ∧ enqueue blocked start e r b =
      (.ok (), { b with host, router := some (r.push i (.event e)), woken := [i] }) := by
  let queued : Bot σ := { b with router := some (r.push i (.event e)) }
  obtain ⟨host, alike, hnoted⟩ := note_of_unwoken (b := queued) h.unwoken start e i
  refine ⟨host, alike, ?_⟩
  refine Eq.trans ?_ hnoted
  unfold enqueue
  cases hfull : r.isFull i with
  | false =>
    rw [Router.route_of_room h.isOpen hi hfull]
    rfl
  | true =>
    rw [Router.route_of_full h.isOpen hi hfull]
    dsimp only
    rw [bind_apply, h.takeTurns blocked, bind_apply, h.makeRoom, hi]
    have hpushed : b.router.map (·.push i (.event e)) = some (r.push i (.event e)) := by
      rw [h.routing, Option.map_some]
    change (do wake i; noteRouted start e i : Step σ (Except Fault Unit))
      { b with router := b.router.map (·.push i (.event e)) } = _
    rw [hpushed]

/-- A message that is handled and worked off at a quiet bot is put to the worker of its partition;
all else is as before but the metrics and the log. -/
lemma settle_message (h : b.Quiet r) (hi : r.partitionOf e.originRef = .ok i)
    (blocked : List Turn) :
    ∃ host, b.host.Alike host ∧
      drainWoken (handle blocked (.message e) b).2 = work i (.event e) { b with host } := by
  let counted := (onHost (Host.count .messagesSeen) b).2
  have hcounted : counted.Quiet r := h.of_eq rfl rfl
  obtain ⟨host, alike, hrouted⟩ :=
    enqueue_of_quiet hcounted hi blocked (Clocked.now counted.host.world)
  have hrouter := route_of_present hcounted.routing blocked e
  rw [hrouted] at hrouter
  have hhandled : (handle blocked (.message e) b).2 = (route blocked e counted).2 := rfl
  refine ⟨host, (Host.Alike.counted _ _ _).trans alike, ?_⟩
  have hlength : i < r.queues.length := Router.partitionOf_lt h.sized hi
  have hqueue : (r.push i (.event e)).queue i = [.event e] := by
    rw [Router.queue_push hlength, if_pos rfl, h.empty i]
    rfl
  rw [hhandled, hrouter, drainWoken_of_one rfl, drain_of_present rfl, hqueue,
    Router.emptied_push hlength (h.empty i)]
  have hback : ({ b with host, router := some r, woken := [] } : Bot σ) = { b with host } := by
    rw [← h.routing, ← h.unwoken]
  rw [forM_singleton]
  exact congrArg (work i (.event e)) hback

/-- An event that is handled and worked off at a quiet bot leaves a quiet bot. -/
lemma Quiet.settle (h : b.Quiet r) {blocked : List Turn} {event : Event}
    (goesOn : (handle blocked event b).1 = .ok true) :
    (drainWoken (handle blocked event b).2).2.Quiet r := by
  -- Only a message reaches the queues; after any other event nothing was woken.
  have hidle : (handle blocked event b).2.router = b.router →
      (handle blocked event b).2.woken = b.woken →
      (drainWoken (handle blocked event b).2).2.Quiet r := by
    intro hrouter hwoken
    rw [drainWoken_of_unwoken (hwoken.trans h.unwoken)]
    exact h.of_eq hrouter hwoken
  cases event with
  | message e =>
    rw [handle_message_fst h.routing h.isOpen] at goesOn
    cases hi : r.partitionOf e.originRef with
    | error cause =>
      rw [hi] at goesOn
      cases goesOn
    | ok i =>
      obtain ⟨host, -, hsettled⟩ := settle_message h hi blocked
      obtain ⟨tracker, host', hframe⟩ := work_frame i (.event e) { b with host }
      rw [hsettled, hframe]
      exact h.of_eq rfl rfl
  | hello => exact hidle rfl rfl
  | connected identity count => exact hidle rfl rfl
  | latency ms => exact hidle rfl rfl
  | transportError code message => exact hidle rfl rfl
  | invalidAuth => exact hidle rfl rfl
  | termination => exact hidle rfl rfl
  | unknown typeName => exact hidle rfl rfl

omit [Clocked σ] in
lemma stop_frame (b : Bot σ) :
    (stop b).2.router = b.router ∧ (stop b).2.woken = b.woken := by
  unfold stop
  rw [get_bind_apply]
  split <;> exact ⟨rfl, rfl⟩

omit [Clocked σ] in
lemma Quiet.meet (h : b.Quiet r) (request : Request) : (meet request b).2.Quiet r := by
  cases request with
  | stop =>
    obtain ⟨hrouter, hwoken⟩ := stop_frame b
    exact h.of_eq hrouter hwoken
  | signal name =>
    obtain ⟨hrouter, hwoken⟩ :=
      stop_frame (record .info "received_signal" [("signal", .str name)] b).2
    exact h.of_eq hrouter hwoken
  | run =>
    unfold Bot.meet
    dsimp only
    rw [get_bind_apply]
    split <;> exact h.of_eq rfl rfl

end

/-! ### Streams with malformed messages -/

omit [Clocked σ] in
lemma twin_refl {b : Bot σ} (blind : b.registry.Blind) : b.Twin b := ⟨blind, b.host, rfl, .refl _⟩

lemma dispatch_cons_of_cancelled {b : Bot σ} (h : b.dispatcher = .cancelled) (pace : Pace)
    (step : StreamStep) (rest : List StreamStep) :
    dispatch pace (step :: rest) b = (.ok (), b) := by
  unfold dispatch
  rw [get_bind_apply]
  rw [if_pos h]
  rfl

lemma dispatch_of_cancelled {b : Bot σ} (h : b.dispatcher = .cancelled) (pace : Pace)
    (steps : List StreamStep) :
    ∃ host, b.host.Alike host ∧ dispatch pace steps b = (.ok (), { b with host }) := by
  cases steps with
  | nil => exact ⟨_, .recorded _ _ _ _, rfl⟩
  | cons step rest => exact ⟨b.host, .refl _, dispatch_cons_of_cancelled h pace step rest⟩

lemma dispatch_broken {b : Bot σ} (h : b.dispatcher ≠ .cancelled) (pace : Pace)
    (message : String) (rest : List StreamStep) :
    dispatch pace (.broken message :: rest) b = (.error (.runtime message), b) := by
  rw [dispatch, get_bind_apply]
  rw [if_neg h]
  rfl

lemma dispatch_request {b : Bot σ} (h : b.dispatcher ≠ .cancelled) (pace : Pace)
    (request : Request) (rest : List StreamStep) :
    dispatch pace (.request request :: rest) b =
      if (meet request b).2.dispatcher = .cancelled then (.ok (), (meet request b).2)
      else dispatch pace.next rest (takeTurns (pace.between 0) (meet request b).2).2 := by
  rw [dispatch, get_bind_apply]
  rw [if_neg h, bind_apply, get_bind_apply]
  split <;> rfl

lemma dispatch_event {b : Bot σ} (h : b.dispatcher ≠ .cancelled) (pace : Pace)
    (event : Event) (rest : List StreamStep) :
    dispatch pace (.event event :: rest) b =
      match (handle (pace.blocked 0) event b).1 with
      | .error fault => (.error fault, (handle (pace.blocked 0) event b).2)
      | .ok false => (.ok (), (handle (pace.blocked 0) event b).2)
      | .ok true => dispatch pace.next rest
          (takeTurns (pace.between 0) (handle (pace.blocked 0) event b).2).2 := by
  rw [dispatch, get_bind_apply]
  rw [if_neg h, bind_apply]
  rcases (handle (pace.blocked 0) event b).1 with fault | (_ | _) <;> rfl

/-- A malformed message that has a partition is read over: a stream that is worked off event by
event ends the same without it, and leaves the same bot but for the metrics and the log. -/
theorem dispatch_malformed {e : MessageEvent} {refusal : MalformedEvent}
    (rejected : e.validate = .error refusal) {r : Router} {i : Nat}
    (hi : r.partitionOf e.originRef = .ok i) (before after : List StreamStep) {b : Bot σ}
    (quiet : b.Quiet r) (blind : b.registry.Blind) :
    let present := dispatch .settled (before ++ .event (.message e) :: after) b
    let absent := dispatch .settled (before ++ after) b
    present.1 = absent.1 ∧ absent.2.Twin present.2 := by
  dsimp only
  -- What comes before is read by both, so all it has to do is to leave the bot quiet.
  induction before generalizing b with
  | nil =>
    rw [List.nil_append, List.nil_append]
    by_cases hcancelled : b.dispatcher = .cancelled
    · obtain ⟨host, alike, hpresent⟩ :=
        dispatch_of_cancelled hcancelled .settled (.event (.message e) :: after)
      obtain ⟨host', alike', habsent⟩ := dispatch_of_cancelled hcancelled .settled after
      rw [hpresent, habsent]
      exact ⟨rfl, blind, host, rfl, alike'.symm.trans alike⟩
    · have hgoesOn := handle_message_fst quiet.routing quiet.isOpen (Pace.settled.blocked 0) e
      rw [hi] at hgoesOn
      obtain ⟨host, alike, hsettled⟩ := settle_message quiet hi (Pace.settled.blocked 0)
      obtain ⟨host', alike', hworked⟩ := work_malformed rejected i { b with host }
      have twin : b.Twin { b with host := host' } := ⟨blind, host', rfl, alike.trans alike'⟩
      rw [dispatch_event hcancelled, hgoesOn]
      dsimp only
      rw [takeTurns_settled, hsettled, hworked]
      obtain ⟨hresult, hlater⟩ := dispatch_respects .settled after _ _ twin
      exact ⟨hresult.symm, hlater⟩
  | cons step rest ih =>
    rw [List.cons_append, List.cons_append]
    have same := twin_refl blind
    by_cases hcancelled : b.dispatcher = .cancelled
    · rw [dispatch_cons_of_cancelled hcancelled, dispatch_cons_of_cancelled hcancelled]
      exact ⟨rfl, same⟩
    cases step with
    | broken message =>
      rw [dispatch_broken hcancelled, dispatch_broken hcancelled]
      exact ⟨rfl, same⟩
    | request request =>
      have hmet := (meet_respects request b b same).2
      rw [dispatch_request hcancelled, dispatch_request hcancelled]
      split
      · exact ⟨rfl, hmet⟩
      · rw [(quiet.meet request).takeTurns]
        exact ih (quiet.meet request) hmet.1
    | event event =>
      have hhandled := (handle_respects (Pace.settled.blocked 0) event b b same).2
      rw [dispatch_event hcancelled, dispatch_event hcancelled]
      cases hresult : (handle (Pace.settled.blocked 0) event b).1 with
      | error fault => exact ⟨rfl, hhandled⟩
      | ok goesOn =>
        cases goesOn with
        | false => exact ⟨rfl, hhandled⟩
        | true =>
          dsimp only
          rw [takeTurns_settled]
          exact ih (quiet.settle hresult) (drainWoken_respects _ _ hhandled).2.1

/-- What comes of the message of a payload at an open router. Reading goes on, unless the channel or
the timestamp of the original message is null. A malformed message changes nothing for a worker that
gets it, whenever that is, and so disturbs no other; at a quiet bot, the rest of the stream ends the
same without it, and leaves the same bot but for the metrics and the log. -/
theorem malformed_messages_are_skipped {b : Bot σ} {r : Router} (routing : b.router = some r)
    (isOpen : r.closed = false) (payload : Value) :
    let e := MessageEvent.ofPayload payload
    (∀ blocked, (handle blocked (.message e) b).1 =
        if e.channel = none ∨ e.originTimestamp = none then
          .error (RouterError.unidentified e.originRef).fault
        else .ok true) ∧
      ∀ refusal, e.validate = .error refusal →
        (∀ (later : Bot σ) partition, ∃ host, later.host.Alike host ∧
          work partition (.event e) later = ((), { later with host })) ∧
        (∀ (p : Processor σ) arrivals s, (∀ a ∈ arrivals, a.extra = true → a.event = e) →
          p.Undisturbed s (Processor.originals arrivals) (p.turnsAmong arrivals s)) ∧
        (e.channel ≠ none → e.originTimestamp ≠ none → b.Quiet r → b.registry.Blind →
          ∀ before after,
            let present := dispatch .settled (before ++ .event (.message e) :: after) b
            let absent := dispatch .settled (before ++ after) b
            present.1 = absent.1 ∧ absent.2.Twin present.2) := by
  intro e
  refine ⟨fun blocked => ?_, fun refusal rejected => ⟨?_, ?_, ?_⟩⟩
  · rw [handle_message_fst routing isOpen]
    split_ifs with hnull
    · rw [Router.partitionOf_of_null hnull]
    · obtain ⟨hchannel, htimestamp⟩ := not_or.mp hnull
      obtain ⟨i, hi⟩ := r.partitionOf_of_identified hchannel htimestamp
      rw [hi]
  · exact fun later partition => work_malformed rejected partition later
  · intro p arrivals s hextras
    apply Processor.undisturbed (p.slippedIn_of_forall ?_ s)
    intro a ha hextra s'
    rw [hextras a ha hextra]
    exact p.ineffective_of_malformed rejected s'
  · intro hchannel htimestamp quiet blind before after
    obtain ⟨i, hi⟩ := r.partitionOf_of_identified hchannel htimestamp
    exact dispatch_malformed rejected hi before after quiet blind

end Bot

namespace Echo
open Simulation

/-- A greeting whose channel is as given. -/
def placed (channel : Value) : Value :=
  .map [("channel", channel), ("ts", .str "90"), ("user", .str "U"), ("text", .str "hi")]

def single : Router := { partitionCount := 1, bufferSize := 1, queues := [[]] }

def reader : Bot Workspace where
  name := none
  config := { token := "t" }
  given := { driver := Workspace.driver }
  registry := registry
  tracker := ⟨{ capacity := 1 }⟩
  host := { world := {} }
  router := some single
  dispatcher := .reading

/-- A stream that starts with the message of a payload, followed by a greeting. -/
def stream (payload : Value) : List StreamStep :=
  [.event (.message (.ofPayload payload)), .event (.message (said "91" "hi"))]

lemma reader_quiet : reader.Quiet single := by
  have created : Router.create? 1 1 = .ok single := rfl
  exact .of_created created rfl rfl

end Echo

/-- Reading ends with a fault at a message whose channel is null, which the check would have refused:
the greeting behind it gets no reply. -/
theorem null_channel_ends_reading :
    Echo.reader.router = some Echo.single ∧ Echo.single.closed = false ∧
      (MessageEvent.ofPayload (Echo.placed .null)).validate = .error .noIdentity ∧
      (Bot.handle [] (.message (.ofPayload (Echo.placed .null))) Echo.reader).1 =
        .error ⟨.wrongType, "unsupported operand type(s) for +: 'NoneType' and 'str'"⟩ ∧
      (Bot.dispatch .settled (Echo.stream (Echo.placed .null)) Echo.reader).2.tracker.size = 0 ∧
      (Bot.dispatch .settled ((Echo.stream (Echo.placed .null)).drop 1) Echo.reader).2.tracker.size =
        1 := by
  refine ⟨rfl, rfl, rfl, rfl, ?_, ?_⟩
  · decide +kernel
  · decide +kernel

/-- A message whose channel is empty is read over, and the greeting behind it is replied to. -/
theorem empty_channel_is_read_over :
    Echo.reader.router = some Echo.single ∧ Echo.single.closed = false ∧
      (Bot.handle [] (.message (.ofPayload (Echo.placed (.str "")))) Echo.reader).1 = .ok true ∧
      Bot.Twin (Bot.dispatch .settled ((Echo.stream (Echo.placed (.str ""))).drop 1) Echo.reader).2
        (Bot.dispatch .settled (Echo.stream (Echo.placed (.str ""))) Echo.reader).2 := by
  obtain ⟨hresult, hskipped⟩ := Bot.malformed_messages_are_skipped
    (b := Echo.reader) (r := Echo.single) rfl rfl (Echo.placed (.str ""))
  have rejected : (MessageEvent.ofPayload (Echo.placed (.str ""))).validate =
      .error .noIdentity := rfl
  obtain ⟨-, -, hread⟩ := hskipped .noIdentity rejected
  have hstream := hread (by decide +kernel) (by decide +kernel) Echo.reader_quiet
    Echo.registry_blind [] [.event (.message (Echo.said "91" "hi"))]
  refine ⟨rfl, rfl, ?_, hstream.2⟩
  rw [hresult]
  rfl

end ChatEngine
