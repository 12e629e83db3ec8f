import ChatEngine.Proofs.MalformedMessages
import ChatEngine.Proofs.TracedRuns

/-!
# Handed messages

Which messages a bot hands to its processor while it reads a stream. A message that is read waits in a
queue until a worker takes it, so the messages that were handed over and the ones that wait are, up to
their order, those that waited before and those that came (`Router.Passage`). Each part of reading
keeps that account: workers, routing with its full queues, a single event, and by induction a stream,
whose messages count up to the first event that ends a run (`heard`).
-/

namespace ChatEngine

/-! ### Messages that wait -/

/-- What is taken from the front of a list, and what is then left in all of them. -/
lemma flatten_set_perm {α : Type} {l : List (List α)} {i : Nat} {front back : List α}
    (h : l[i]?.getD [] = front ++ back) : (front ++ (l.set i back).flatten).Perm l.flatten := by
  induction l generalizing i with
  | nil =>
    obtain ⟨rfl, -⟩ := List.append_eq_nil_iff.mp h.symm
    exact .refl _
  | cons q rest ih =>
    cases i with
    | zero =>
      have hq : q = front ++ back := h
      rw [List.set_cons_zero, List.flatten_cons, List.flatten_cons, hq, List.append_assoc]
    | succ i =>
      rw [List.set_cons_succ, List.flatten_cons, List.flatten_cons]
      have hswap : (front ++ q).Perm (q ++ front) := List.perm_append_comm
      have hmove := hswap.append_right (rest.set i back).flatten
      rw [List.append_assoc, List.append_assoc] at hmove
      exact hmove.trans ((ih h).append_left q)

lemma flatten_modify_perm {α : Type} {l : List (List α)} {i : Nat} (hi : i < l.length) (a : α) :
    (l.modify i (· ++ [a])).flatten.Perm (l.flatten ++ [a]) := by
  induction l generalizing i with
  | nil => cases hi
  | cons q rest ih =>
    cases i with
    | zero =>
      rw [List.modify_zero_cons, List.flatten_cons, List.flatten_cons, List.append_assoc,
        List.append_assoc]
      exact List.perm_append_comm.append_left q
    | succ i =>
      rw [List.modify_succ_cons, List.flatten_cons, List.flatten_cons, List.append_assoc]
      exact (ih (Nat.lt_of_succ_lt_succ hi)).append_left q

namespace Router

/-- The messages that wait in the queues. -/
def waiting (r : Router) : List MessageEvent := r.queues.flatten.filterMap QueueItem.event?

lemma waiting_set {r : Router} {i : Nat} {front back : List QueueItem}
    (h : r.queue i = front ++ back) :
    (front.filterMap QueueItem.event? ++
      ({ r with queues := r.queues.set i back } : Router).waiting).Perm r.waiting := by
  have hkept := (flatten_set_perm h).filterMap QueueItem.event?
  rwa [List.filterMap_append] at hkept

lemma queue_emptied (r : Router) (i j : Nat) :
    (r.emptied i).queue j = if j = i then [] else r.queue j := by
  unfold emptied queue
  rw [List.getElem?_set]
  by_cases hj : j = i
  · subst hj
    rw [if_pos rfl, if_pos rfl]
    split <;> rfl
  · rw [if_neg fun h => hj h.symm, if_neg hj]

lemma waiting_push {r : Router} {i : Nat} (hi : i < r.queues.length) (e : MessageEvent) :
    (r.push i (.event e)).waiting.Perm (r.waiting ++ [e]) := by
  have h := (flatten_modify_perm hi (QueueItem.event e)).filterMap QueueItem.event?
  rwa [List.filterMap_append] at h

lemma waiting_of_empty {r : Router} (h : ∀ i, r.queue i = []) : r.waiting = [] := by
  have hflat : r.queues.flatten = [] := by
    rw [List.flatten_eq_nil_iff]
    intro q hq
    obtain ⟨i, hi, rfl⟩ := List.mem_iff_getElem.mp hq
    have hempty := h i
    rwa [queue, List.getElem?_eq_getElem hi] at hempty
  rw [waiting, hflat]
  rfl

lemma waiting_close? {r next : Router} (h : r.close? = some next) : next.waiting = r.waiting := by
  unfold close? at h
  split_ifs at h
  · cases h
    rfl
  · cases h
    unfold waiting
    dsimp only
    induction r.queues with
    | nil => rfl
    | cons q rest ih =>
      rw [List.map_cons, List.flatten_cons, List.flatten_cons, List.filterMap_append,
        List.filterMap_append, List.filterMap_append, ih]
      exact congrArg (· ++ _) (List.append_nil _)

/-- What passed through a router between two states: messages that came were put on a queue, and
messages that went were taken from one. -/
structure Passage (r r' : Router) (came went : List MessageEvent) : Prop where
  length : r'.queues.length = r.queues.length
  count : r'.partitionCount = r.partitionCount
  closed : r'.closed = r.closed
  kept : (went ++ r'.waiting).Perm (r.waiting ++ came)

namespace Passage

variable {r r' r'' : Router} {came came' went went' : List MessageEvent}

lemma refl (r : Router) : Passage r r [] [] := ⟨rfl, rfl, rfl, by rw [List.append_nil]; rfl⟩

lemma trans (h : Passage r r' came went) (h' : Passage r' r'' came' went') :
    Passage r r'' (came ++ came') (went ++ went') where
  length := h'.length.trans h.length
  count := h'.count.trans h.count
  closed := h'.closed.trans h.closed
  kept := by
    have hlater := h'.kept.append_left went
    have hearlier := h.kept.append_right came'
    rw [← List.append_assoc, ← List.append_assoc] at hlater
    rw [List.append_assoc r.waiting] at hearlier
    exact hlater.trans hearlier

lemma set {i : Nat} {front back : List QueueItem} (h : r.queue i = front ++ back) :
    Passage r { r with queues := r.queues.set i back } [] (front.filterMap QueueItem.event?) where
  length := List.length_set
  count := rfl
  closed := rfl
  kept := by
    rw [List.append_nil]
    exact waiting_set h

lemma emptied (r : Router) (i : Nat) : Passage r (r.emptied i) [] (r.events i) :=
  .set (List.append_nil _).symm

lemma take? {i : Nat} {item : QueueItem} (h : r.take? i = some (item, r')) :
    Passage r r' [] item.event?.toList := by
  unfold Router.take? at h
  split at h
  · cases h
  · next hqueue =>
    cases h
    have hset : Passage r _ [] ([item].filterMap QueueItem.event?) := .set hqueue
    rw [List.filterMap_cons] at hset
    cases item <;> exact hset

lemma push {i : Nat} (hi : i < r.queues.length) (e : MessageEvent) :
    Passage r (r.push i (.event e)) [e] [] where
  length := List.length_modify ..
  count := rfl
  closed := rfl
  kept := waiting_push hi e

lemma sized (h : Passage r r' came went) (hr : r.Sized) : r'.Sized :=
  ⟨by rw [h.length, h.count]; exact hr.length, by rw [h.count]; exact hr.positive⟩

end Passage

end Router

namespace Bot.Traced

variable {σ α β : Type}

/-- Whether a traced step from a bot gives some answer, hands some messages to the processor and does
nothing else that others can tell, and leaves some bot. -/
def Hands (t : Traced σ α) (b : Bot σ) (a : α) (went : List MessageEvent) (b' : Bot σ) : Prop :=
  Does t b a (went.map .process) b'

namespace Hands

lemma pure (a : α) (b : Bot σ) : Hands (Pure.pure a) b a [] b := Does.pure a b

lemma plain (step : Step σ α) (b : Bot σ) : Hands (Traced.plain step) b (step b).1 [] (step b).2 :=
  Does.plain step b

lemma bind {t : Traced σ α} {f : α → Traced σ β} {b b' b'' : Bot σ} {a : α} {c : β}
    {went went' : List MessageEvent} (h : Hands t b a went b') (hf : Hands (f a) b' c went' b'') :
    Hands (t >>= f) b c (went ++ went') b'' := by
  unfold Hands
  rw [List.map_append]
  exact Does.bind h hf

/-- A plain step first adds nothing to what is handed over. -/
lemma after {step : Step σ α} {f : α → Traced σ β} {b b' : Bot σ} {c : β}
    {went : List MessageEvent} (hf : Hands (f (step b).1) (step b).2 c went b') :
    Hands (Traced.plain step >>= f) b c went b' :=
  (Hands.plain step b).bind hf

/-- Looking at the bot changes nothing. -/
lemma look {f : Bot σ → Traced σ β} {b b' : Bot σ} {c : β} {went : List MessageEvent}
    (hf : Hands (f b) b c went b') : Hands (Traced.plain get >>= f) b c went b' :=
  after hf

lemma next {step : Step σ α} {f : α → Traced σ β} {b b' b'' : Bot σ} {a : α} {c : β}
    {went : List MessageEvent} (hstep : step b = (a, b')) (hf : Hands (f a) b' c went b'') :
    Hands (Traced.plain step >>= f) b c went b'' :=
  after (by rw [hstep]; exact hf)

end Hands

/-! ### Workers -/

/-- Whether a step for each partition lets its worker do everything in its queue. -/
def Drains (each : Nat → Traced σ Unit) : Prop :=
  ∀ (partition : Nat) {b : Bot σ} {r : Router}, b.router = some r →
    ∃ tracker host, Hands (each partition) b () (r.events partition)
      { b with tracker, host, router := some (r.emptied partition) }

lemma Drains.each {each : Nat → Traced σ Unit} (hd : Drains each) (partitions : List Nat)
    {b : Bot σ} {r : Router} (h : b.router = some r) :
    ∃ went tracker host r', Hands (partitions.forM each) b () went
        { b with tracker, host, router := some r' } ∧ r.Passage r' [] went ∧
      ∀ i, i ∈ partitions ∨ r.queue i = [] → r'.queue i = [] := by
  induction partitions generalizing b r with
  | nil =>
    refine ⟨[], b.tracker, b.host, r, ?_, .refl r, fun i hi => hi.resolve_left List.not_mem_nil⟩
    rw [← h]
    exact .pure _ b
  | cons partition rest ih =>
    obtain ⟨tracker, host, hfirst⟩ := hd partition h
    obtain ⟨went, tracker', host', r', hrest, hpassage, hempty⟩ :=
      ih (b := { b with tracker, host, router := some (r.emptied partition) }) rfl
    refine ⟨r.events partition ++ went, tracker', host', r',
      hfirst.bind (f := fun _ => rest.forM each) hrest,
      (Router.Passage.emptied r partition).trans hpassage, fun i hi => hempty i ?_⟩
    rw [Router.queue_emptied]
    by_cases hpartition : i = partition
    · exact .inr (if_pos hpartition)
    · rw [if_neg hpartition]
      exact hi.imp_left fun hmem => (List.mem_cons.mp hmem).resolve_left hpartition

/-- Workers that all do everything in their queues leave nothing that waits. -/
lemma Drains.all {each : Nat → Traced σ Unit} (hd : Drains each) {b : Bot σ} {r : Router}
    (h : b.router = some r) :
    ∃ went tracker host r', Hands ((List.range r.queues.length).forM each) b () went
        { b with tracker, host, router := some r' } ∧ went.Perm r.waiting ∧ r'.waiting = [] := by
  obtain ⟨went, tracker, host, r', hdoes, hpassage, hempty⟩ :=
    hd.each (List.range r.queues.length) h
  have hwaiting : r'.waiting = [] := by
    apply Router.waiting_of_empty
    intro i
    by_cases hi : i < r.queues.length
    · exact hempty i (.inl (List.mem_range.mpr hi))
    · have hnone : r.queues[i]? = none := List.getElem?_eq_none (Nat.le_of_not_lt hi)
      exact hempty i (.inr (by rw [Router.queue, hnone]; rfl))
  have hkept := hpassage.kept
  rw [hwaiting, List.append_nil, List.append_nil] at hkept
  exact ⟨went, tracker, host, r', hdoes, hkept, hwaiting⟩

section
variable [Clocked σ]

lemma work_hands (partition : Nat) (item : QueueItem) (b : Bot σ) :
    ∃ tracker host, Hands (work partition item) b () item.event?.toList
      { b with tracker, host } := by
  cases item with
  | stop => exact ⟨b.tracker, _, .plain _ b⟩
  | event e =>
    have hprocess := Does.act (.process e) b
    cases hresult : ((Act.process e).step b).1 with
    | error fault =>
      rw [hresult] at hprocess
      exact ⟨_, _, hprocess.bind (.plain _ _)⟩
    | ok =>
      rw [hresult] at hprocess
      exact ⟨_, _, hprocess.bind (.pure _ _)⟩

lemma works_hands (partition : Nat) (items : List QueueItem) (b : Bot σ) :
    ∃ tracker host, Hands (items.forM (work partition)) b () (items.filterMap QueueItem.event?)
      { b with tracker, host } := by
  induction items generalizing b with
  | nil => exact ⟨b.tracker, b.host, .pure _ b⟩
  | cons item rest ih =>
    obtain ⟨tracker, host, hitem⟩ := work_hands partition item b
    obtain ⟨tracker', host', hrest⟩ := ih { b with tracker, host }
    have hboth := hitem.bind (f := fun _ => rest.forM (work partition)) hrest
    refine ⟨tracker', host', ?_⟩
    cases item <;> exact hboth

lemma drain_drains : Drains (drain : Nat → Traced σ Unit) := by
  intro partition b r h
  obtain ⟨tracker, host, hworks⟩ := works_hands partition (r.queue partition)
    { b with router := some (r.emptied partition) }
  refine ⟨tracker, host, .look ?_⟩
  rw [h]
  exact .after hworks

lemma drainAll_hands {b : Bot σ} {r : Router} (h : b.router = some r) :
    ∃ went tracker host r', Hands drainAll b () went
        { b with tracker, host, router := some r' } ∧ went.Perm r.waiting ∧ r'.waiting = [] := by
  obtain ⟨went, tracker, host, r', hall, hkept⟩ := drain_drains.all h
  refine ⟨went, tracker, host, r', .look ?_, hkept⟩
  rw [h]
  exact hall

lemma startAndDrain_hands {b : Bot σ} {r : Router} (h : b.router = some r) :
    ∃ went tracker host r', Hands startAndDrain b () went
        { b with tracker, host, router := some r' } ∧ went.Perm r.waiting ∧ r'.waiting = [] := by
  have hd : Drains fun i => (do plain (record .debug "worker_started"); drain i : Traced σ Unit) := by
    intro partition b r h
    obtain ⟨tracker, host, hdrain⟩ :=
      drain_drains partition (b := (record .debug "worker_started" [] b).2) h
    exact ⟨tracker, host, .after hdrain⟩
  obtain ⟨went, tracker, host, r', hall, hkept⟩ := hd.all h
  refine ⟨went, tracker, host, r', .look ?_, hkept⟩
  rw [h]
  exact hall

lemma drainWoken_hands {b : Bot σ} {r : Router} (h : b.router = some r) :
    ∃ went tracker host r', Hands drainWoken b () went
        { b with tracker, host, woken := [], router := some r' } ∧ r.Passage r' [] went := by
  obtain ⟨went, tracker, host, r', hdoes, hpassage, -⟩ :=
    drain_drains.each b.woken (b := { b with woken := [] }) h
  exact ⟨went, tracker, host, r', .after (.after hdoes), hpassage⟩

lemma takeFirst_hands (partition : Nat) {b : Bot σ} {r : Router} (h : b.router = some r) :
    ∃ went tracker host r', Hands (takeFirst partition) b () went
        { b with tracker, host, router := some r' } ∧ r.Passage r' [] went := by
  cases htake : r.take? partition with
  | none =>
    refine ⟨[], b.tracker, b.host, r, .look ?_, .refl r⟩
    rw [h, Option.bind_some, htake, ← h]
    exact .pure _ b
  | some taken =>
    obtain ⟨item, r'⟩ := taken
    obtain ⟨tracker, host, hwork⟩ := work_hands partition item { b with router := some r' }
    refine ⟨item.event?.toList, tracker, host, r', .look ?_, .take? htake⟩
    rw [h, Option.bind_some, htake]
    exact .after hwork

/-- Whatever turns the workers take, what they hand over had waited. -/
lemma takeTurns_hands (turns : List Turn) {b : Bot σ} {r : Router} (h : b.router = some r) :
    ∃ went tracker host woken r', Hands (takeTurns turns) b () went
        { b with tracker, host, woken, router := some r' } ∧ r.Passage r' [] went := by
  induction turns generalizing b r with
  | nil =>
    refine ⟨[], b.tracker, b.host, b.woken, r, ?_, .refl r⟩
    rw [← h]
    exact .pure _ b
  | cons turn rest ih =>
    obtain ⟨went, tracker, host, woken, r', hturn, hpassage⟩ :
        ∃ went tracker host woken r', Hands (takeTurn turn) b () went
          { b with tracker, host, woken, router := some r' } ∧ r.Passage r' [] went := by
      cases turn with
      | first partition =>
        obtain ⟨went, tracker, host, r', htake, hpassage⟩ := takeFirst_hands partition h
        exact ⟨went, tracker, host, b.woken, r', htake, hpassage⟩
      | woken =>
        obtain ⟨went, tracker, host, r', hwoken, hpassage⟩ := drainWoken_hands h
        exact ⟨went, tracker, host, [], r', hwoken, hpassage⟩
    obtain ⟨went', tracker', host', woken', r'', hrest, hpassage'⟩ :=
      ih (b := { b with tracker, host, woken, router := some r' }) rfl
    exact ⟨went ++ went', tracker', host', woken', r'',
      hturn.bind (f := fun _ => takeTurns rest) hrest, hpassage.trans hpassage'⟩

lemma makeRoom_hands (partition : Nat) {b : Bot σ} {r : Router} (h : b.router = some r) :
    ∃ went tracker host r', Hands (makeRoom partition) b () went
        { b with tracker, host, router := some r' } ∧ r.Passage r' [] went := by
  cases hfull : r.isFull partition with
  | false =>
    refine ⟨[], b.tracker, b.host, r, .look ?_, .refl r⟩
    rw [h, Option.map_some, Option.getD_some, hfull, ← h]
    exact .pure _ b
  | true =>
    obtain ⟨went, tracker, host, r', htake, hpassage⟩ := takeFirst_hands partition h
    refine ⟨went, tracker, host, r', .look ?_, hpassage⟩
    rw [h, Option.map_some, Option.getD_some, hfull]
    exact htake

/-! ### Reading -/

omit [Clocked σ] in
lemma wake_frame (partition : Nat) (b : Bot σ) :
    ∃ woken, wake partition b = ((), { b with woken }) := by
  unfold wake
  change ∃ woken, ((), if b.woken.contains partition then b else _) = ((), { b with woken })
  split
  · exact ⟨b.woken, rfl⟩
  · exact ⟨_, rfl⟩

lemma arrive_hands (start : Float) (e : MessageEvent) (partition : Nat) (b : Bot σ) :
    ∃ host woken, Hands (do plain (wake partition); plain (noteRouted start e partition)) b
      (.ok ()) [] { b with host, woken } := by
  obtain ⟨woken, hwake⟩ := wake_frame partition b
  refine ⟨(noteRouted start e partition { b with woken }).2.host, woken, .after ?_⟩
  rw [hwake]
  exact .plain _ _

lemma enqueue_hands {b : Bot σ} {r : Router} (h : b.router = some r) (sized : r.Sized)
    (isOpen : r.closed = false) {e : MessageEvent} {i : Nat}
    (hi : r.partitionOf e.originRef = .ok i) (blocked : List Turn) (start : Float) :
    ∃ went tracker host woken r', Hands (enqueue blocked start e r) b (.ok ()) went
        { b with tracker, host, woken, router := some r' } ∧ r.Passage r' [e] went := by
  have hlength := Router.partitionOf_lt sized hi
  unfold enqueue
  cases hfull : r.isFull i with
  | false =>
    rw [Router.route_of_room isOpen hi hfull]
    obtain ⟨host, woken, harrive⟩ :=
      arrive_hands start e i { b with router := some (r.push i (.event e)) }
    exact ⟨[], b.tracker, host, woken, r.push i (.event e), .after harrive, .push hlength e⟩
  | true =>
    rw [Router.route_of_full isOpen hi hfull]
    dsimp only
    rw [hi]
    obtain ⟨went, tracker, host, woken, r', hturns, hpassage⟩ := takeTurns_hands blocked h
    obtain ⟨went', tracker, host, r'', hroom, hpassage'⟩ := makeRoom_hands i
      (b := { b with tracker, host, woken, router := some r' }) rfl
    have hmade := hpassage.trans hpassage'
    have hlength' : i < r''.queues.length := by rwa [hmade.length]
    obtain ⟨host', woken', harrive⟩ := arrive_hands start e i
      { b with tracker, host, woken, router := some (r''.push i (.event e)) }
    refine ⟨went ++ (went' ++ []), tracker, host', woken', r''.push i (.event e),
      hturns.bind (hroom.bind (.after harrive)), ?_⟩
    rw [← List.append_assoc]
    exact hmade.trans (.push hlength' e)

lemma handle_message_hands {b : Bot σ} {r : Router} (h : b.router = some r) (sized : r.Sized)
    (isOpen : r.closed = false) (blocked : List Turn) {e : MessageEvent}
    (channel : e.channel ≠ none) (timestamp : e.originTimestamp ≠ none) :
    ∃ went tracker host woken r', Hands (handle blocked (.message e)) b (.ok true) went
        { b with tracker, host, woken, router := some r' } ∧ r.Passage r' [e] went := by
  obtain ⟨i, hi⟩ := r.partitionOf_of_identified channel timestamp
  let counted := (onHost (Host.count .messagesSeen) b).2
  obtain ⟨went, tracker, host, woken, r', henqueue, hpassage⟩ :=
    enqueue_hands (b := counted) h sized isOpen hi blocked (Clocked.now counted.host.world)
  have hroute : Hands (route blocked e) counted (.ok ()) went
      { b with tracker, host, woken, router := some r' } := by
    refine .look ?_
    rw [show counted.router = some r from h]
    exact henqueue
  have hhandle := hroute.bind (f := fun result => pure (result.map fun _ => true)) (.pure _ _)
  rw [List.append_nil] at hhandle
  exact ⟨went, tracker, host, woken, r', .after hhandle, hpassage⟩

/-- A message without a partition ends reading. -/
lemma handle_null_hands {b : Bot σ} {r : Router} (h : b.router = some r)
    (isOpen : r.closed = false) (blocked : List Turn) {e : MessageEvent}
    (null : e.channel = none ∨ e.originTimestamp = none) :
    ∃ fault host, Hands (handle blocked (.message e)) b (.error fault) [] { b with host } := by
  have hrefused : r.route e = (.refused (.unidentified e.originRef), r) := by
    rw [Router.route, if_neg (Bool.eq_false_iff.mp isOpen), Router.partitionOf_of_null null]
  let counted := (onHost (Host.count .messagesSeen) b).2
  have hroute : Hands (route blocked e) counted
      (.error (RouterError.unidentified e.originRef).fault) [] counted := by
    refine .look ?_
    rw [show counted.router = some r from h]
    dsimp only
    rw [enqueue, hrefused]
    exact .pure _ _
  exact ⟨_, _, .after (hroute.bind (f := fun result => pure (result.map fun _ => true))
    (.pure _ _))⟩

end

end Bot.Traced

/-! ### Streams of events -/

/-- Whether the original message of an event has an identity, null in no part. -/
def MessageEvent.isIdentified (e : MessageEvent) : Bool :=
  e.channel.isSome && e.originTimestamp.isSome

lemma MessageEvent.isIdentified_iff {e : MessageEvent} :
    e.isIdentified = true ↔ e.channel ≠ none ∧ e.originTimestamp ≠ none := by
  rw [isIdentified, Bool.and_eq_true, Option.isSome_iff_ne_none, Option.isSome_iff_ne_none]

namespace Event

/-- Whether an event ends a run. -/
def ends : Event → Bool
  | .invalidAuth => true
  | .termination => true
  | _ => false

def message? : Event → Option MessageEvent
  | .message e => some e
  | _ => none

/-- The message that an event brings into a queue: one without an identity has none to go to. -/
def routed? (event : Event) : Option MessageEvent := event.message?.filter MessageEvent.isIdentified

/-- Whether reading goes on after an event. -/
def goesOn (event : Event) : Bool := !event.ends && event.message?.all MessageEvent.isIdentified

/-- Whether an event says that the credentials are rejected. -/
def rejects : Event → Bool
  | .invalidAuth => true
  | _ => false

lemma rejects_of_goesOn {event : Event} (h : event.goesOn = true) : event.rejects = false := by
  cases event <;> first | rfl | cases h

end Event

/-- Whether a request asks a bot to stop. -/
def Request.stops : Request → Bool
  | .stop => true
  | .signal _ => true
  | .run => false

/-- The events that a bot handles of a stream. It reads up to an event after which reading does not
go on, to where the stream is broken, or to a request to stop, unless it is deaf to that. -/
def met (deaf : Bool) : List StreamStep → List Event
  | [] => []
  | .broken _ :: _ => []
  | .request r :: rest => if r.stops && !deaf then [] else met deaf rest
  | .event e :: rest => e :: if e.goesOn then met deaf rest else []

/-- Whether the first event that ends a run says that the credentials are rejected. -/
def rejected (events : List Event) : Bool :=
  match events.find? Event.ends with
  | some .invalidAuth => true
  | _ => false

/-- Whether a bot ignores requests to stop: it does not run, or was asked before. -/
def Bot.deaf {σ : Type} (b : Bot σ) : Bool := !b.running || b.stopping

namespace Bot.Traced

section
variable {σ : Type} [Clocked σ]

/-- An event that is no message and does not end the run. -/
lemma handle_other_hands (blocked : List Turn) {event : Event} (hnone : event.message? = none)
    (goesOn : event.ends = false) (b : Bot σ) :
    ∃ host identity, Hands (handle blocked event) b (.ok true) [] { b with host, identity } := by
  cases event with
  | message e => cases hnone
  | invalidAuth => cases goesOn
  | termination => cases goesOn
  | connected identity count => exact ⟨_, some identity, .plain (Bot.handle blocked _) b⟩
  | hello => exact ⟨_, b.identity, .plain (Bot.handle blocked _) b⟩
  | latency ms => exact ⟨_, b.identity, .plain (Bot.handle blocked _) b⟩
  | transportError code message => exact ⟨_, b.identity, .plain (Bot.handle blocked _) b⟩
  | unknown typeName => exact ⟨_, b.identity, .plain (Bot.handle blocked _) b⟩

lemma handle_ending_hands (blocked : List Turn) {event : Event} (ends : event.ends = true)
    {b : Bot σ} (trusted : b.invalidAuth = false) :
    ∃ host, Hands (handle blocked event) b (.ok false) []
      { b with host, invalidAuth := event.rejects } := by
  cases event with
  | invalidAuth => exact ⟨_, .plain (Bot.handle blocked _) b⟩
  | termination =>
    rw [show Event.rejects .termination = b.invalidAuth from trusted.symm]
    exact ⟨_, .plain (Bot.handle blocked _) b⟩
  | _ => cases ends

omit [Clocked σ] in
/-- A request to stop ends reading if the bot is not deaf to it, and no other request does. -/
lemma meet_frame (r : Request) (b : Bot σ) :
    ∃ host, host.world = b.host.world ∧ meet r b = ((), if r.stops && !b.deaf then
      { b with host, stopping := true
               dispatcher := if b.dispatcher = .reading then .cancelled else b.dispatcher }
      else { b with host }) := by
  have hstop (b : Bot σ) : ∃ host, host.world = b.host.world ∧ stop b = ((), if !b.deaf then
      { b with host, stopping := true
               dispatcher := if b.dispatcher = .reading then .cancelled else b.dispatcher }
      else { b with host }) := by
    unfold stop
    rw [get_bind_apply]
    have hdeaf : (b.running && !b.stopping) = !b.deaf := by
      unfold deaf
      cases b.running <;> cases b.stopping <;> rfl
    rw [hdeaf]
    cases b.deaf with
    | true => exact ⟨b.host, rfl, rfl⟩
    | false => exact ⟨(record .info "bot_stopping" [] b).2.host, rfl, rfl⟩
  cases r with
  | stop => exact hstop b
  | signal name => exact hstop (record .info "received_signal" [("signal", .str name)] b).2
  | run =>
    change ∃ host, _ ∧ (if b.running then record .warning "bot_already_running" else pure ()) b =
      ((), { b with host })
    split
    · exact ⟨(record .warning "bot_already_running" [] b).2.host, rfl, rfl⟩
    · exact ⟨b.host, rfl, rfl⟩

omit [Clocked σ] in
/-- Requests to a bot that does not read its stream change nothing but what it is deaf to. -/
lemma meetAll_frame {b : Bot σ} (unread : b.dispatcher ≠ .reading) (requests : List Request) :
    ∃ host stopping, meetAll requests b = ((), { b with host, stopping }) ∧
      host.world = b.host.world ∧
      ({ b with host, stopping } : Bot σ).deaf = (b.deaf || requests.any Request.stops) := by
  induction requests generalizing b with
  | nil => exact ⟨b.host, b.stopping, rfl, rfl, (Bool.or_false _).symm⟩
  | cons r rest ih =>
    obtain ⟨host, hworld, hmeet⟩ := meet_frame r b
    rw [if_neg unread] at hmeet
    unfold meetAll
    rw [bind_apply, hmeet, List.any_cons, ← Bool.or_assoc]
    cases heeds : r.stops && !b.deaf with
    | true =>
      obtain ⟨host', stopping, hrest, hworld', hdeaf⟩ :=
        ih (b := { b with host, stopping := true }) unread
      refine ⟨host', stopping, hrest, hworld'.trans hworld, hdeaf.trans ?_⟩
      rw [Bool.and_eq_true] at heeds
      rw [heeds.1, Bool.or_true, deaf, Bool.or_true]
    | false =>
      obtain ⟨host', stopping, hrest, hworld', hdeaf⟩ := ih (b := { b with host }) unread
      refine ⟨host', stopping, hrest, hworld'.trans hworld, hdeaf.trans ?_⟩
      have hsame : (b.deaf || r.stops) = b.deaf := by
        revert heeds
        cases r.stops <;> cases b.deaf <;> simp
      rw [hsame]
      rfl

/-- A bot that reads its stream and knows of no rejected credentials. -/
structure Reads (b : Bot σ) (r : Router) : Prop where
  reading : b.dispatcher = .reading
  trusted : b.invalidAuth = false
  routing : b.router = some r
  sized : r.Sized
  isOpen : r.closed = false

omit [Clocked σ] in
lemma Reads.going {b : Bot σ} {r : Router} (h : Reads b r) : b.dispatcher ≠ .cancelled := by
  rw [h.reading]
  nofun

/-- What handling an event comes to. -/
lemma Reads.handle {b : Bot σ} {r : Router} (h : Reads b r) (blocked : List Turn) (event : Event) :
    ∃ result went tracker host woken identity r', Hands (Traced.handle blocked event) b result went
        { b with tracker, host, woken, identity, invalidAuth := event.rejects
                 router := some r' } ∧
      r.Passage r' event.routed?.toList went ∧
      (result = .ok true ↔ event.goesOn = true) := by
  have htrusted := h.trusted
  have hrouting := h.routing
  unfold Event.goesOn Event.routed?
  cases hends : event.ends with
  | true =>
    obtain ⟨host, hhandle⟩ := handle_ending_hands blocked hends htrusted
    have hmessage : event.message? = none := by
      cases event <;> first | rfl | cases hends
    rw [hmessage]
    refine ⟨.ok false, [], b.tracker, host, b.woken, b.identity, r, ?_, .refl r, nofun, nofun⟩
    rw [← hrouting]
    exact hhandle
  | false =>
    have hrejects : event.rejects = b.invalidAuth := by
      rw [htrusted]
      cases event <;> first | rfl | cases hends
    rw [hrejects]
    cases hmessage : event.message? with
    | none =>
      obtain ⟨host, identity, hhandle⟩ := handle_other_hands blocked hmessage hends b
      refine ⟨.ok true, [], b.tracker, host, b.woken, identity, r, ?_, .refl r,
        iff_of_true rfl rfl⟩
      rw [← hrouting]
      exact hhandle
    | some e =>
      obtain rfl : event = .message e := by
        cases event <;> cases hmessage
        rfl
      rw [Option.filter_some, Option.all_some]
      cases he : e.isIdentified with
      | true =>
        obtain ⟨channel, timestamp⟩ := MessageEvent.isIdentified_iff.mp he
        obtain ⟨went, tracker, host, woken, r', hhandle, hpassage⟩ :=
          handle_message_hands hrouting h.sized h.isOpen blocked channel timestamp
        exact ⟨.ok true, went, tracker, host, woken, b.identity, r', hhandle, hpassage,
          iff_of_true rfl rfl⟩
      | false =>
        have null : e.channel = none ∨ e.originTimestamp = none := by
          by_contra hnot
          rw [not_or] at hnot
          rw [MessageEvent.isIdentified_iff.mpr hnot] at he
          cases he
        obtain ⟨fault, host, hhandle⟩ := handle_null_hands hrouting h.isOpen blocked null
        refine ⟨.error fault, [], b.tracker, host, b.woken, b.identity, r, ?_, .refl r,
          nofun, nofun⟩
        rw [← hrouting]
        exact hhandle

/-- A bot that reads still does so after the workers took turns. -/
lemma Reads.takeTurns {b : Bot σ} {r : Router} (h : Reads b r) (turns : List Turn) :
    ∃ went tracker host woken r', Hands (Traced.takeTurns turns) b () went
        { b with tracker, host, woken, router := some r' } ∧
      Reads ({ b with tracker, host, woken, router := some r' } : Bot σ) r' ∧
      r.Passage r' [] went := by
  obtain ⟨went, tracker, host, woken, r', hturns, hpassage⟩ := takeTurns_hands turns h.routing
  exact ⟨went, tracker, host, woken, r', hturns,
    ⟨h.reading, h.trusted, rfl, hpassage.sized h.sized, hpassage.closed.trans h.isOpen⟩, hpassage⟩

/-- An event after which reading goes on leaves a bot that reads, after the workers took turns. -/
lemma Reads.goOn {b : Bot σ} {r : Router} (h : Reads b r) {event : Event}
    (goesOn : event.goesOn = true) (blocked between : List Turn) :
    ∃ went went' handled tracker host woken identity r',
      Hands (Traced.handle blocked event) b (.ok true) went handled ∧
      Hands (Traced.takeTurns between) handled () went'
        { b with tracker, host, woken, identity, router := some r' } ∧
      Reads ({ b with tracker, host, woken, identity, router := some r' } : Bot σ) r' ∧
      r.Passage r' event.routed?.toList (went ++ went') := by
  obtain ⟨result, went, tracker, host, woken, identity, r', hhandle, hpassage, hgoes⟩ :=
    h.handle blocked event
  obtain rfl := hgoes.mpr goesOn
  rw [Event.rejects_of_goesOn goesOn, ← h.trusted] at hhandle
  have hreads : Reads ({ b with tracker, host, woken, identity, router := some r' } : Bot σ) r' :=
    ⟨h.reading, h.trusted, rfl, hpassage.sized h.sized, hpassage.closed.trans h.isOpen⟩
  obtain ⟨went', tracker', host', woken', r'', hturns, hreads', hpassage'⟩ :=
    hreads.takeTurns between
  have hboth := hpassage.trans hpassage'
  rw [List.append_nil] at hboth
  exact ⟨went, went', _, tracker', host', woken', identity, r'', hhandle, hturns, hreads', hboth⟩

omit [Clocked σ] in
/-- A request to stop tells a bot that heeds it to stop reading; other requests change nothing. -/
lemma Reads.meet_cases {b : Bot σ} {r : Router} (h : Reads b r) (request : Request) :
    (request.stops && !b.deaf) = true ∧
        (∃ host, meet request b = ((), { b with host, stopping := true, dispatcher := .cancelled })) ∨
      (request.stops && !b.deaf) = false ∧
        ∃ host, meet request b = ((), { b with host }) ∧ Reads ({ b with host } : Bot σ) r := by
  obtain ⟨host, -, hmeet⟩ := meet_frame request b
  cases heeds : request.stops && !b.deaf with
  | true =>
    rw [heeds, if_pos rfl, if_pos h.reading] at hmeet
    exact .inl ⟨rfl, host, hmeet⟩
  | false =>
    rw [heeds, if_neg Bool.false_ne_true] at hmeet
    exact .inr ⟨rfl, host, hmeet, h.reading, h.trusted, h.routing, h.sized, h.isOpen⟩

/-- What reading a stream comes to: the messages that are met are handed over or wait. -/
lemma Reads.dispatch {b : Bot σ} {r : Router} (h : Reads b r) (pace : Pace)
    (steps : List StreamStep) :
    ∃ result went tracker host woken identity stopping dispatcher r',
      Hands (Traced.dispatch pace steps) b result went
        { b with tracker, host, woken, identity, stopping, dispatcher
                 invalidAuth := (met b.deaf steps).any Event.rejects, router := some r' } ∧
      r.Passage r' ((met b.deaf steps).filterMap Event.routed?) went := by
  induction steps generalizing b r pace with
  | nil =>
    refine ⟨.ok (), [], b.tracker, (record .info "event_stream_ended" [] b).2.host, b.woken,
      b.identity, b.stopping, b.dispatcher, r, .after ?_, .refl r⟩
    rw [met, List.any_nil, ← h.trusted, ← h.routing]
    exact .pure _ _
  | cons step rest ih =>
    cases step with
    | broken message =>
      refine ⟨.error (.runtime message), [], b.tracker, b.host, b.woken, b.identity, b.stopping,
        b.dispatcher, r, .look ?_, .refl r⟩
      rw [if_neg h.going, met, List.any_nil, ← h.trusted, ← h.routing]
      exact .pure _ _
    | request request =>
      rw [met]
      rcases h.meet_cases request with ⟨heeds, host, hmeet⟩ | ⟨ignores, host, hmeet, hreads⟩
      · refine ⟨.ok (), [], b.tracker, host, b.woken, b.identity, true, .cancelled, r, .look ?_, ?_⟩
        · rw [if_neg h.going, if_pos heeds, List.any_nil, ← h.trusted, ← h.routing]
          refine .next hmeet (.look ?_)
          rw [if_pos rfl]
          exact .pure _ _
        · rw [if_pos heeds]
          exact .refl r
      · obtain ⟨went, tracker, host, woken, r', hturns, hreads, hpassage⟩ :=
          hreads.takeTurns (pace.between 0)
        obtain ⟨result, later, tracker, host, woken, identity, stopping, dispatcher, r'', hrest,
          hpassage'⟩ := ih hreads pace.next
        rw [if_neg (Bool.eq_false_iff.mp ignores)]
        refine ⟨result, went ++ later, tracker, host, woken, identity, stopping, dispatcher, r'',
          .look ?_, hpassage.trans hpassage'⟩
        rw [if_neg h.going]
        refine .next hmeet (.look ?_)
        rw [if_neg h.going]
        exact hturns.bind hrest
    | event event =>
      have hmessages : ∀ later, (event :: later).filterMap Event.routed? =
          event.routed?.toList ++ later.filterMap Event.routed? := by
        intro later
        rw [List.filterMap_cons]
        cases event.routed? <;> rfl
      rw [met, List.any_cons, hmessages]
      cases hgoesOn : event.goesOn with
      | false =>
        obtain ⟨result, went, tracker, host, woken, identity, r', hhandle, hpassage, hgoes⟩ :=
          h.handle (pace.blocked 0) event
        rw [hgoesOn] at hgoes
        rw [if_neg Bool.false_ne_true, List.any_nil, Bool.or_false, List.filterMap_nil,
          List.append_nil]
        refine ⟨result.map fun _ => (), went ++ [], tracker, host, woken, identity, b.stopping,
          b.dispatcher, r', .look ?_, by rwa [List.append_nil]⟩
        rw [if_neg h.going]
        refine hhandle.bind ?_
        rcases result with fault | _ | _
        · exact .pure _ _
        · exact .pure _ _
        · cases hgoes.mp rfl
      | true =>
        -- The next step finds a bot that still reads, with an open router: the hypothesis applies.
        obtain ⟨went, went', handled, tracker, host, woken, identity, r', hhandle, hturns, hreads,
          hpassage⟩ := h.goOn hgoesOn (pace.blocked 0) (pace.between 0)
        obtain ⟨result, later, tracker, host, woken, identity, stopping, dispatcher, r'', hrest,
          hpassage'⟩ := ih hreads pace.next
        rw [if_pos rfl, Event.rejects_of_goesOn hgoesOn, Bool.false_or]
        refine ⟨result, went ++ (went' ++ later), tracker, host, woken, identity, stopping,
          dispatcher, r'', .look ?_, ?_⟩
        · rw [if_neg h.going]
          exact hhandle.bind (hturns.bind hrest)
        · rw [← List.append_assoc]
          exact hpassage.trans hpassage'

end

end Bot.Traced

end ChatEngine
