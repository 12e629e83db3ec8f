import ChatEngine.Proofs.LocalAccount
import ChatEngine.Proofs.RouterQueues
import Mathlib.Logic.Relation

/-!
# Processing on partitions

Message events are routed onto partitions, each with a worker that processes its queue from the
front, while the workers of different partitions take turns in any order. All events about one
original message stand in one queue, so they are processed in the order in which they arrived
(`Flow.Ordered`). With answers that depend on the same original message alone, and room for all
messages in the tracker, the calls for a message and its entry are then those of processing all
events in order of arrival.
-/

namespace ChatEngine
open Outbox

/-! ### Where events stand -/

variable {σ : Type}

lemma present_eq_some {s : Option String} (h : present s = true) : s = some (s.getD "") := by
  cases s with
  | none => cases h
  | some s => rfl

lemma MessageEvent.originRef_of_valid {e : MessageEvent} (hkind : e.kind ≠ .ignored)
    (hvalid : e.validate = .ok ()) :
    e.originRef = ⟨some e.originId.channel, some e.originId.timestamp⟩ := by
  have hparts : present e.channel = true ∧ present e.originTimestamp = true := by
    unfold validate at hvalid
    split at hvalid
    · cases hvalid
    · next hmissing =>
      simp only [Bool.or_eq_true, Bool.not_eq_true', not_or, Bool.not_eq_false] at hmissing
      refine ⟨hmissing.1, ?_⟩
      unfold originTimestamp
      cases hk : e.kind with
      | new => exact hmissing.2
      | ignored => exact absurd hk hkind
      | edit =>
        rw [hk] at hvalid
        cases he : e.edited with
        | none => simp [he, present] at hvalid
        | some sub =>
          simp only [he, Option.bind_some] at hvalid
          split at hvalid
          · assumption
          · cases hvalid
      | delete =>
        rw [hk] at hvalid
        dsimp only
        split
        · assumption
        · next hdeleted =>
          cases hp : e.previous with
          | none =>
            have hnone : present (none : Option String) = false := rfl
            simp [hp, hdeleted, hnone] at hvalid
          | some sub =>
            simp only [hp, hdeleted, Option.bind_some, Bool.false_or] at hvalid
            split at hvalid
            · assumption
            · cases hvalid
  rw [originId, originRef, MessageRef.id]
  rw [← present_eq_some hparts.1, ← present_eq_some hparts.2]

namespace Processor

variable {p : Processor σ}

lemma origin?_cases {e : MessageEvent} {origin : MessageId} (h : p.origin? e = some origin) :
    e.kind ≠ .ignored ∧ e.validate = .ok () ∧ e.originId = origin := by
  unfold origin? task at h
  by_cases hignored : e.kind = .ignored
  · simp [hignored] at h
  · rw [if_neg hignored] at h
    refine ⟨hignored, ?_⟩
    cases hvalid : e.validate with
    | error refusal => simp [hvalid] at h
    | ok =>
      refine ⟨rfl, ?_⟩
      rw [hvalid] at h
      by_cases hdelete : e.kind = .delete
      · simpa [hdelete] using h
      · simp only [if_neg hdelete] at h
        rcases hm : p.dialog.incoming e with fault | (_ | m)
        · simp [hm] at h
        · simp [hm] at h
        · rw [hm] at h
          by_cases hown : p.dialog.isOwn e m = true
          · simp [hown] at h
          · simp only [hown] at h
            exact (incoming_cases hm).2.1.symm.trans (Option.some.inj h)

lemma only_append (origin : MessageId) (xs ys : List MessageEvent) :
    p.only origin (xs ++ ys) = p.only origin xs ++ p.only origin ys :=
  List.filter_append xs ys

lemma only_other {origin : MessageId} {e : MessageEvent} (h : p.origin? e ≠ some origin)
    (rest : List MessageEvent) : p.only origin (e :: rest) = p.only origin rest :=
  List.filter_cons_of_neg (by simpa using h)

/-- An event that does something stands in the partition of its original message. -/
lemma partitionOf_origin {e : MessageEvent} {origin : MessageId} (h : p.origin? e = some origin)
    (r : Router) : r.partitionOf e.originRef = .ok (origin.partition r.partitionCount) := by
  obtain ⟨hkind, hvalid, rfl⟩ := origin?_cases h
  rw [MessageEvent.originRef_of_valid hkind hvalid]
  rfl

lemma partition_of_origin {e : MessageEvent} {origin : MessageId} (h : p.origin? e = some origin)
    {r : Router} {i : Nat} (hi : r.partitionOf e.originRef = .ok i) :
    origin.partition r.partitionCount = i :=
  Except.ok.inj ((partitionOf_origin h r).symm.trans hi)

end Processor

/-! ### Workers on partitions -/

/-- Message events on their way: those still to be routed, those in the queues, and what came of
those processed so far. -/
structure Flow (σ : Type) where
  pending : List MessageEvent
  router : Router
  handled : List MessageEvent
  transcript : Transcript
  state : Processor.State σ

namespace Flow

def start (events : List MessageEvent) (router : Router) (state : Processor.State σ) : Flow σ :=
  ⟨events, router, [], [], state⟩

/-- Whether all events are routed and processed. -/
def Finished (f : Flow σ) : Prop := f.pending = [] ∧ ∀ i, f.router.events i = []

variable [Clocked σ]

/-- What can happen next: the next event is routed or refused, the worker of a partition takes the
first item of its queue and processes it, the router is closed once all is routed, or the world
changes. An event that has to wait for room in its queue is not routed. -/
inductive Step (p : Processor σ) : Flow σ → Flow σ → Prop
  | dispatch {f : Flow σ} {e : MessageEvent} {rest : List MessageEvent} {i : Nat} {router : Router}
      (next : f.pending = e :: rest) (routed : f.router.route e = (.routed i, router)) :
      Step p f { f with pending := rest, router }
  | refuse {f : Flow σ} {e : MessageEvent} {rest : List MessageEvent} {cause : RouterError}
      {router : Router} (next : f.pending = e :: rest)
      (refused : f.router.route e = (.refused cause, router)) :
      Step p f { f with pending := rest, router }
  | work {f : Flow σ} {i : Nat} {e : MessageEvent} {router : Router}
      (taken : f.router.take? i = some (.event e, router)) :
      Step p f {
        pending := f.pending
        router
        handled := f.handled ++ [e]
        transcript := f.transcript ++ p.transcript e f.state
        state := (p.process e f.state).2 }
  | leave {f : Flow σ} {i : Nat} {router : Router}
      (taken : f.router.take? i = some (.stop, router)) : Step p f { f with router }
  | close {f : Flow σ} {router : Router} (done : f.pending = [])
      (closed : f.router.close? = some router) : Step p f { f with router }
  | elsewhere {f : Flow σ} (host : Host σ) : Step p f { f with state := { f.state with host } }

/-- What holds on every schedule: the processed events were processed one after the other, queued
events stand in the partition of their original message, and for every original message the events
processed, queued and pending are, in this order, those that arrived. -/
structure Ordered (p : Processor σ) (first : Processor.State σ) (arrived : List MessageEvent)
    (f : Flow σ) : Prop where
  run : Sequential p first f.handled f.transcript f.state
  sized : f.router.Sized
  placed : ∀ i, ∀ e ∈ f.router.events i, f.router.partitionOf e.originRef = .ok i
  fifo : ∀ origin, p.only origin f.handled ++
    (p.only origin (f.router.events (origin.partition f.router.partitionCount)) ++
      p.only origin f.pending) = p.only origin arrived
  opened : f.router.closed = true → f.pending = []

variable {p : Processor σ} {first : Processor.State σ} {arrived : List MessageEvent}

lemma start_ordered (p : Processor σ) (first : Processor.State σ) (arrived : List MessageEvent)
    {partitions buffer : Int} {router : Router}
    (created : Router.create? partitions buffer = .ok router) :
    Ordered p first arrived (start arrived router first) := by
  obtain ⟨hsized, hopen, hqueues, -⟩ := Router.create?_cases created
  have hempty : ∀ i, router.events i = [] := fun i => by
    rw [Router.events, hqueues]
    rfl
  refine ⟨.start, hsized, ?_, ?_, ?_⟩
  · intro i e he
    rw [start, hempty i] at he
    cases he
  · intro origin
    simp only [start, hempty]
    rfl
  · intro hclosed
    rw [start, hopen] at hclosed
    cases hclosed

lemma Ordered.dispatch {f : Flow σ} (h : Ordered p first arrived f) {e : MessageEvent}
    {rest : List MessageEvent} {i : Nat} {router : Router} (next : f.pending = e :: rest)
    (routed : f.router.route e = (.routed i, router)) :
    Ordered p first arrived { f with pending := rest, router } := by
  obtain ⟨hopen, hpartition, rfl⟩ := Router.route_routed routed
  have hi := Router.partitionOf_lt h.sized hpartition
  refine ⟨h.run, ⟨?_, h.sized.positive⟩, ?_, ?_, ?_⟩
  · exact (List.length_modify _ _ _).trans h.sized.length
  · intro j e' he'
    dsimp only at he'
    rw [Router.events_push hi] at he'
    split at he'
    · next hj =>
      rcases List.mem_append.mp he' with he' | he'
      · exact h.placed j e' he'
      · rw [List.mem_singleton.mp he', hj]
        exact hpartition
    · exact h.placed j e' he'
  · intro origin
    have hfifo := h.fifo origin
    rw [next] at hfifo
    rw [← hfifo]
    congr 1
    change p.only origin ((f.router.push i (.event e)).events
      (origin.partition f.router.partitionCount)) ++ p.only origin rest = _
    rw [Router.events_push hi]
    -- An event about the message goes to the end of the message's own queue.
    by_cases ho : p.origin? e = some origin
    · rw [if_pos (Processor.partition_of_origin ho hpartition), Processor.only_append,
        List.append_assoc, ← Processor.only_append]
      rfl
    · rw [Processor.only_other ho]
      split
      · rw [Processor.only_append, Processor.only_other ho]
        exact congrArg (· ++ _) (List.append_nil _)
      · rfl
  · intro hclosed
    exact absurd hclosed (by simp [Router.push, hopen])

/-- A refused event does nothing when it is processed. -/
lemma Ordered.refuse {f : Flow σ} (h : Ordered p first arrived f) {e : MessageEvent}
    {rest : List MessageEvent} {cause : RouterError} {router : Router}
    (next : f.pending = e :: rest) (refused : f.router.route e = (.refused cause, router)) :
    Ordered p first arrived { f with pending := rest, router } := by
  obtain ⟨rfl, hwhy⟩ := Router.route_refused refused
  -- The router is not closed while events are pending, so the event lacks an identity.
  have hpartition : f.router.partitionOf e.originRef = .error cause := by
    refine hwhy.resolve_left fun hclosed => ?_
    rw [h.opened hclosed] at next
    cases next
  refine ⟨h.run, h.sized, h.placed, ?_, ?_⟩
  · intro origin
    have hother : p.origin? e ≠ some origin := by
      intro ho
      rw [Processor.partitionOf_origin ho] at hpartition
      cases hpartition
    have hfifo := h.fifo origin
    rwa [next, Processor.only_other hother] at hfifo
  · intro hclosed
    rw [h.opened hclosed] at next
    cases next

lemma Ordered.work {f : Flow σ} (h : Ordered p first arrived f) {i : Nat} {e : MessageEvent}
    {router : Router} (taken : f.router.take? i = some (.event e, router)) :
    Ordered p first arrived {
      pending := f.pending
      router
      handled := f.handled ++ [e]
      transcript := f.transcript ++ p.transcript e f.state
      state := (p.process e f.state).2 } := by
  obtain ⟨hcount, hclosed, hlength, hqueue, hothers⟩ := Router.take?_cases taken
  have hevents : f.router.events i = e :: router.events i := by
    rw [Router.events, hqueue]
    rfl
  have hsame : ∀ j ≠ i, router.events j = f.router.events j := fun j hj => by
    rw [Router.events, hothers j hj, Router.events]
  have hplaced : f.router.partitionOf e.originRef = .ok i :=
    h.placed i e (by rw [hevents]; exact .head _)
  refine ⟨h.run.process e, ⟨?_, ?_⟩, ?_, ?_, fun hc => h.opened (hclosed ▸ hc)⟩
  · exact hlength.trans (h.sized.length.trans hcount.symm)
  · exact hcount ▸ h.sized.positive
  · intro j e' he'
    rw [Router.partitionOf_congr hcount]
    apply h.placed j e'
    by_cases hj : j = i
    · subst hj
      rw [hevents]
      exact List.mem_cons_of_mem _ he'
    · rwa [← hsame j hj]
  · intro origin
    have hfifo := h.fifo origin
    rw [← hfifo]
    dsimp only
    rw [hcount, Processor.only_append, List.append_assoc]
    congr 1
    by_cases ho : p.origin? e = some origin
    · rw [Processor.partition_of_origin ho hplaced, hevents, ← List.append_assoc,
        ← Processor.only_append]
      rfl
    · have hdropped : p.only origin [e] = [] := Processor.only_other ho []
      rw [hdropped, List.nil_append]
      congr 1
      by_cases hi : origin.partition f.router.partitionCount = i
      · rw [hi, hevents, Processor.only_other ho]
      · rw [hsame _ hi]

lemma Ordered.reroute {f : Flow σ} (h : Ordered p first arrived f) {router : Router}
    (hcount : router.partitionCount = f.router.partitionCount)
    (hlength : router.queues.length = f.router.queues.length)
    (hevents : ∀ i, router.events i = f.router.events i)
    (hopened : router.closed = true → f.pending = []) :
    Ordered p first arrived { f with router } where
  run := h.run
  sized := ⟨hlength.trans (h.sized.length.trans hcount.symm), hcount ▸ h.sized.positive⟩
  placed i e he := by
    dsimp only at he ⊢
    rw [hevents] at he
    rw [Router.partitionOf_congr hcount]
    exact h.placed i e he
  fifo origin := by
    dsimp only
    rw [hcount, hevents]
    exact h.fifo origin
  opened := hopened

/-- Every step keeps the events of an original message in order. -/
theorem Ordered.step {f f' : Flow σ} (h : Ordered p first arrived f) (step : Step p f f') :
    Ordered p first arrived f' := by
  cases step with
  | dispatch next routed => exact h.dispatch next routed
  | refuse next refused => exact h.refuse next refused
  | work taken => exact h.work taken
  | @leave i router taken =>
    obtain ⟨hcount, hclosed, hlength, hqueue, hothers⟩ := Router.take?_cases taken
    refine h.reroute hcount hlength (fun j => ?_) fun hc => h.opened (hclosed ▸ hc)
    by_cases hj : j = i
    · subst hj
      rw [Router.events, Router.events, hqueue]
      rfl
    · rw [Router.events, hothers j hj, Router.events]
  | close done closed =>
    obtain ⟨hcount, hlength, hevents⟩ := Router.close?_cases closed
    exact h.reroute hcount hlength hevents fun _ => done
  | elsewhere host => exact ⟨h.run.elsewhere host, h.sized, h.placed, h.fifo, h.opened⟩

/-- Every schedule keeps the events of an original message in order. -/
theorem Ordered.steps {f f' : Flow σ} (h : Ordered p first arrived f)
    (steps : Relation.ReflTransGen (Step p) f f') : Ordered p first arrived f' := by
  induction steps with
  | refl => exact h
  | tail _ step ih => exact ih.step step

lemma Ordered.finished {f : Flow σ} (h : Ordered p first arrived f) (done : f.Finished)
    (origin : MessageId) : p.only origin f.handled = p.only origin arrived := by
  have hfifo := h.fifo origin
  rw [done.1, done.2] at hfifo
  exact (List.append_nil _).symm.trans hfifo

end Flow

/-! ### Any schedule against the order of arrival -/

/-- On every schedule of the workers, for every number of partitions and every size of their queues,
the calls for an original message and its entry come out as when all events are processed one after
the other in the order of arrival. Assumed are answers of the actions and of the driver that depend
on the same original message alone, and a tracker with room for all original messages. -/
theorem partitioning_is_invisible [Clocked σ] {p : Processor σ} {o : Oracle}
    {capacity partitions buffer : Int} {tracker : ResponseTracker} {router : Router}
    {arrived : List MessageEvent} {host host' : Host σ} {f : Flow σ} {t : Transcript}
    {s : Processor.State σ} (created : ResponseTracker.create? capacity = some tracker)
    (hrouter : Router.create? partitions buffer = .ok router)
    (hfew : ((arrived.filterMap p.origin?).dedup.length : Int) ≤ capacity)
    (schedule : Relation.ReflTransGen (Flow.Step p) (Flow.start arrived router ⟨tracker, host⟩) f)
    (done : f.Finished) (inOrder : Sequential p ⟨tracker, host'⟩ arrived t s)
    (hlocal : o.Explains [] f.transcript) (hlocal' : o.Explains [] t) (origin : MessageId) :
    f.transcript.callsFor origin = t.callsFor origin ∧
      f.state.tracker.cache.peek? origin = s.tracker.cache.peek? origin := by
  have hroomy := ResponseTracker.Roomy.of_create created hfew
  have hordered := (Flow.start_ordered p ⟨tracker, host⟩ arrived hrouter).steps schedule
  have hlisted : ∀ e ∈ arrived, ∀ k ∈ p.origin? e, k ∈ arrived.filterMap p.origin? :=
    fun e he k hk => List.mem_filterMap.mpr ⟨e, he, hk⟩
  have hlisted' : ∀ e ∈ f.handled, ∀ k ∈ p.origin? e, k ∈ arrived.filterMap p.origin? := by
    intro e he k hk
    have hmem : e ∈ p.only k f.handled := List.mem_filter.mpr ⟨he, by simpa using hk⟩
    rw [hordered.finished done k] at hmem
    exact hlisted e (List.mem_of_mem_filter hmem) k hk
  -- Both accounts are what the events of the message lead to, and these are the same events.
  have haccount := hordered.run.account_eq hroomy hlisted' hlocal origin
  have haccount' := inOrder.account_eq hroomy hlisted hlocal' origin
  rw [hordered.finished done origin] at haccount
  have hsame : account f.transcript f.state.tracker origin = account t s.tracker origin :=
    haccount.trans haccount'.symm
  have hhistory := congrArg Account.history hsame
  exact ⟨congrArg (List.filterMap _) hhistory, congrArg Account.entry hsame⟩

namespace Echo
open Simulation

/-- A service that names messages by their texts and cannot change a text to "bye". -/
def namingByText : Outbox Workspace where
  driver := {
    send := fun message => pure ⟨message.channel, message.text⟩
    update := fun id text _ =>
      if text = "bye" then throw (.runtime "update failed") else pure id
    delete := fun _ => pure ()
    whisper := fun _ => pure () }

def namedByText : (op : Operation) → Option op.Confirmation
  | .send _ message => some ⟨message.channel, message.text⟩
  | .whisper _ _ => some ()
  | .update _ target text _ => if text = "bye" then none else some target
  | .delete _ _ => some ()

lemma namingByText_memoryless : namingByText.Memoryless namedByText := by
  intro origin op h
  rw [perform_apply]
  cases op with
  | update action target text blocks =>
    by_cases htext : text = "bye"
    · simp only [namedByText, request, namingByText, htext, if_true]
      rfl
    · simp only [namedByText, request, namingByText, htext, if_false]
      rfl
  | _ => rfl

def steady : Processor Workspace := registry.processor namingByText identity

/-- A greeting, another one, and a change of the first. -/
def arrived : List MessageEvent := [said "1" "hi", said "4" "hi", changed "1" "bye"]

def idle : Processor.State Workspace := ⟨⟨{ capacity := 2 }⟩, { world := {} }⟩

def router : Router := { partitionCount := 2, bufferSize := 2, queues := [[], []] }

def replies (message : IncomingMessage) : List PendingReply :=
  (steady.dialog.replies message idle.host).1

lemma replies_eq (message : IncomingMessage) (h : Host Workspace) :
    (steady.dialog.replies message h).1 = replies message := by
  apply Dialog.replies_fst
  · intro r hr
    unfold Dialog.candidates at hr
    split at hr
    · exact commands_steady hr
    · exact hearActions_steady hr
  · exact ⟨message.msgId, message.subtype, message.payload, rfl⟩

lemma overtaken : ∃ f, Relation.ReflTransGen (Flow.Step steady) (Flow.start arrived router idle) f ∧
    f.Finished ∧ f.handled = [said "4" "hi", said "1" "hi", changed "1" "bye"] := by
  have hfirst : router.partitionOf (said "1" "hi").originRef = .ok 1 := by
    have href : (said "1" "hi").originRef = ⟨some "C", some "1"⟩ := by decide +kernel
    rw [href]
    exact congrArg Except.ok (by decide +kernel)
  have hsecond : router.partitionOf (said "4" "hi").originRef = .ok 0 := by
    have href : (said "4" "hi").originRef = ⟨some "C", some "4"⟩ := by decide +kernel
    rw [href]
    exact congrArg Except.ok (by decide +kernel)
  have hchange : router.partitionOf (changed "1" "bye").originRef = .ok 1 := by
    have href : (changed "1" "bye").originRef = ⟨some "C", some "1"⟩ := by decide +kernel
    rw [href]
    exact congrArg Except.ok (by decide +kernel)
  have routed : Relation.ReflTransGen (Flow.Step steady) (Flow.start arrived router idle)
      { Flow.start [] router idle with
        router := ((router.push 1 (.event (said "1" "hi"))).push 0 (.event (said "4" "hi"))).push 1
          (.event (changed "1" "bye")) } :=
    .tail (.tail (.single (.dispatch rfl (Router.route_of_room rfl hfirst rfl)))
      (.dispatch rfl (Router.route_of_room rfl hsecond rfl)))
      (.dispatch rfl (Router.route_of_room rfl hchange rfl))
  let left (queue : List QueueItem) : Router := { router with queues := [[], queue] }
  have taken : Router.take? { router with queues :=
      [[.event (said "4" "hi")], [.event (said "1" "hi"), .event (changed "1" "bye")]] } 0 =
      some (.event (said "4" "hi"),
        left [.event (said "1" "hi"), .event (changed "1" "bye")]) := rfl
  have taken' : (left [.event (said "1" "hi"), .event (changed "1" "bye")]).take? 1 =
      some (.event (said "1" "hi"), left [.event (changed "1" "bye")]) := rfl
  have taken'' : (left [.event (changed "1" "bye")]).take? 1 =
      some (.event (changed "1" "bye"), left []) := rfl
  refine ⟨_, ((routed.tail (.work taken)).tail (.work taken')).tail (.work taken''), ⟨rfl, ?_⟩, rfl⟩
  intro i
  rcases i with _ | _ | i <;> rfl

end Echo

/-- Processing the second greeting first makes no difference to any message. -/
theorem overtaking_is_invisible :
    ∃ f, Relation.ReflTransGen (Flow.Step Echo.steady)
        (Flow.start Echo.arrived Echo.router Echo.idle) f ∧ f.Finished ∧
      f.handled = [Echo.said "4" "hi", Echo.said "1" "hi", Echo.changed "1" "bye"] ∧
      ∀ origin, f.transcript.callsFor origin =
          (Echo.steady.processAll Echo.arrived Echo.idle).1.callsFor origin ∧
        f.state.tracker.cache.peek? origin =
          (Echo.steady.processAll Echo.arrived Echo.idle).2.tracker.cache.peek? origin := by
  obtain ⟨f, schedule, done, hhandled⟩ := Echo.overtaken
  have created : ResponseTracker.create? 2 = some Echo.idle.tracker := rfl
  have hrouter : Router.create? 2 2 = .ok Echo.router := rfl
  have hfew : ((Echo.arrived.filterMap Echo.steady.origin?).dedup.length : Int) ≤ 2 := by
    decide +kernel
  have nothing : Sequential Echo.steady Echo.idle [] [] Echo.idle := .start
  have inOrder := nothing.processAll Echo.arrived
  rw [List.nil_append, List.nil_append] at inOrder
  have hordered := (Flow.start_ordered Echo.steady Echo.idle Echo.arrived hrouter).steps schedule
  refine ⟨f, schedule, done, hhandled, fun origin => ?_⟩
  have hlocal := hordered.run.explained Echo.namingByText_memoryless Echo.replies_eq
  have hlocal' := inOrder.explained Echo.namingByText_memoryless Echo.replies_eq
  exact partitioning_is_invisible created hrouter hfew schedule done inOrder hlocal hlocal' origin

end ChatEngine
