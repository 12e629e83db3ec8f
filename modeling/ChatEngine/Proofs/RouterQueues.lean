import ChatEngine.Router
import Mathlib.Data.List.Basic

/-!
# Queues of a router

A router loses, doubles and reorders nothing. Along every run, in which events are routed, items are
taken and the router is closed in any order, what was taken from a queue followed by what stands in
it are the accepted events of its partition in order of arrival, with a mark behind them exactly if
the router was closed (`Router.Balanced`). A message, its edits and its deletion are about the same
original message, so they come out of one queue.
-/

namespace ChatEngine

/-- The event that stands in a queue. -/
def QueueItem.event? : QueueItem → Option MessageEvent
  | .event e => some e
  | .stop => none

namespace Router

/-- The events in the queue of a partition. -/
def events (r : Router) (i : Nat) : List MessageEvent := (r.queue i).filterMap QueueItem.event?

/-- Every partition has a queue, and there is at least one. -/
structure Sized (r : Router) : Prop where
  length : r.queues.length = r.partitionCount
  positive : 0 < r.partitionCount

lemma partition_lt (id : MessageId) {count : Nat} (h : 0 < count) : id.partition count < count := by
  have hle : id.checksum &&& (count - 1) ≤ count - 1 := Nat.and_le_right
  rw [MessageId.partition]
  omega

lemma partitionOf_lt {r : Router} (h : r.Sized) {ref : MessageRef} {i : Nat}
    (hi : r.partitionOf ref = .ok i) : i < r.queues.length := by
  rw [h.length]
  obtain ⟨channel, timestamp⟩ := ref
  cases channel with
  | none => cases hi
  | some channel =>
    cases timestamp with
    | none => cases hi
    | some timestamp =>
      rw [← Except.ok.inj hi]
      exact partition_lt _ h.positive

/-- An event has a partition unless the identity of its original message is null in part. -/
lemma partitionOf_of_identified (r : Router) {e : MessageEvent} (channel : e.channel ≠ none)
    (timestamp : e.originTimestamp ≠ none) : ∃ i, r.partitionOf e.originRef = .ok i := by
  obtain ⟨channel, hchannel⟩ := Option.ne_none_iff_exists'.mp channel
  obtain ⟨timestamp, htimestamp⟩ := Option.ne_none_iff_exists'.mp timestamp
  rw [MessageEvent.originRef, hchannel, htimestamp]
  exact ⟨_, rfl⟩

lemma partitionOf_of_null {r : Router} {e : MessageEvent}
    (null : e.channel = none ∨ e.originTimestamp = none) :
    r.partitionOf e.originRef = .error (.unidentified e.originRef) := by
  unfold MessageEvent.originRef
  rcases null with hnull | hnull
  · rw [hnull]
    rfl
  · rw [hnull]
    cases e.channel <;> rfl

lemma partitionOf_congr {r r' : Router} (h : r'.partitionCount = r.partitionCount)
    (ref : MessageRef) : r'.partitionOf ref = r.partitionOf ref := by
  unfold partitionOf
  rw [h]

lemma create?_cases {partitions buffer : Int} {r : Router}
    (h : create? partitions buffer = .ok r) :
    r.Sized ∧ r.closed = false ∧ (∀ i, r.queue i = []) ∧
      (r.partitionCount : Int) = partitions ∧ (r.bufferSize : Int) = buffer := by
  unfold create? at h
  split_ifs at h with hpower hbuffer
  cases h
  have hpositive : 0 < partitions := by
    unfold isPowerOfTwo at hpower
    simp only [Bool.not_eq_true', Bool.and_eq_false_imp, not_forall] at hpower
    obtain ⟨hp, -⟩ := hpower
    simpa using hp
  refine ⟨⟨List.length_replicate, by simp only; omega⟩, rfl, fun i => ?_, ?_, ?_⟩
  · rw [queue, List.getElem?_replicate]
    split <;> rfl
  · exact Int.toNat_of_nonneg (by omega)
  · exact Int.toNat_of_nonneg (by omega)

lemma queue_push {r : Router} {i : Nat} (hi : i < r.queues.length) (item : QueueItem) (j : Nat) :
    (r.push i item).queue j = if j = i then r.queue j ++ [item] else r.queue j := by
  unfold push queue
  rw [List.getElem?_modify]
  by_cases hj : j = i
  · subst hj
    simp [hi]
  · have hij : i ≠ j := fun h => hj h.symm
    simp [hj, hij]

lemma events_push {r : Router} {i : Nat} (hi : i < r.queues.length) (e : MessageEvent) (j : Nat) :
    (r.push i (.event e)).events j = if j = i then r.events j ++ [e] else r.events j := by
  unfold events
  rw [queue_push hi]
  split
  · rw [List.filterMap_append]
    rfl
  · rfl

/-- The router with the queue of a partition emptied. -/
def emptied (r : Router) (partition : Nat) : Router :=
  { r with queues := r.queues.set partition [] }

lemma emptied_push {r : Router} {i : Nat} (hi : i < r.queues.length)
    (hempty : r.queue i = []) (item : QueueItem) : (r.push i item).emptied i = r := by
  have hqueues : (r.queues.modify i (· ++ [item])).set i [] = r.queues := by
    apply List.ext_getElem?
    intro j
    by_cases hj : i = j
    · subst hj
      have hlength : i < (r.queues.modify i (· ++ [item])).length := by
        rwa [List.length_modify]
      rw [List.getElem?_set_self hlength, List.getElem?_eq_getElem hi]
      rw [queue, List.getElem?_eq_getElem hi] at hempty
      exact congrArg some hempty.symm
    · rw [List.getElem?_set_ne hj, List.getElem?_modify_ne _ _ hj]
  unfold emptied push
  dsimp only
  rw [hqueues]

lemma take?_cases {r next : Router} {i : Nat} {item : QueueItem}
    (h : r.take? i = some (item, next)) :
    next.partitionCount = r.partitionCount ∧ next.closed = r.closed ∧
      next.queues.length = r.queues.length ∧ r.queue i = item :: next.queue i ∧
      ∀ j ≠ i, next.queue j = r.queue j := by
  unfold take? at h
  split at h
  · cases h
  · next first rest hqueue =>
    cases h
    have hi : i < r.queues.length := by
      by_contra hge
      rw [queue, List.getElem?_eq_none (by omega)] at hqueue
      cases hqueue
    refine ⟨rfl, rfl, List.length_set, ?_, fun j hj => ?_⟩
    · rw [hqueue, queue, List.getElem?_set_self hi]
      rfl
    · rw [queue, queue, List.getElem?_set_ne (fun h => hj h.symm)]

lemma route_routed {r next : Router} {e : MessageEvent} {i : Nat}
    (h : r.route e = (.routed i, next)) :
    r.closed = false ∧ r.partitionOf e.originRef = .ok i ∧ next = r.push i (.event e) := by
  unfold route at h
  split at h
  · cases h
  · next hopen =>
    split at h
    · cases h
    · next j hj =>
      split at h
      · cases h
      · cases h
        exact ⟨by simpa using hopen, hj, rfl⟩

lemma route_of_room {r : Router} {e : MessageEvent} {i : Nat} (hopen : r.closed = false)
    (hi : r.partitionOf e.originRef = .ok i) (hroom : r.isFull i = false) :
    r.route e = (.routed i, r.push i (.event e)) := by
  simp [route, hopen, hi, hroom]

lemma route_of_full {r : Router} {e : MessageEvent} {i : Nat} (hopen : r.closed = false)
    (hpartition : r.partitionOf e.originRef = .ok i) (hfull : r.isFull i = true) :
    r.route e = (.blocked, r) := by
  simp [route, hopen, hpartition, hfull]

lemma route_refused {r next : Router} {e : MessageEvent} {cause : RouterError}
    (h : r.route e = (.refused cause, next)) :
    next = r ∧ (r.closed = true ∨ r.partitionOf e.originRef = .error cause) := by
  unfold route at h
  split at h
  · next hclosed =>
    cases h
    exact ⟨rfl, .inl hclosed⟩
  · split at h
    · next cause' hcause =>
      cases h
      exact ⟨rfl, .inr hcause⟩
    · split at h <;> cases h

lemma close?_cases {r next : Router} (h : r.close? = some next) :
    next.partitionCount = r.partitionCount ∧ next.queues.length = r.queues.length ∧
      ∀ i, next.events i = r.events i := by
  unfold close? at h
  split_ifs at h
  · cases h
    exact ⟨rfl, rfl, fun _ => rfl⟩
  · cases h
    refine ⟨rfl, List.length_map _, fun i => ?_⟩
    unfold events queue
    rw [List.getElem?_map]
    cases r.queues[i]? with
    | none => rfl
    | some q =>
      simp only [Option.map_some, Option.getD_some, List.filterMap_append]
      exact List.append_nil _

lemma close?_of_closed {r : Router} (h : r.closed = true) : r.close? = some r := by
  rw [close?, if_pos h]

lemma route_of_closed {r : Router} (h : r.closed = true) (e : MessageEvent) :
    r.route e = (.refused .closed, r) := by
  rw [route, if_pos h]

/-- The closed router, with a mark behind every queue. -/
def marked (r : Router) : Router := { r with closed := true, queues := r.queues.map (· ++ [.stop]) }

lemma close?_of_room {r : Router} (h : r.Sized) (isOpen : r.closed = false)
    (room : ∀ i < r.partitionCount, (r.queue i).length < r.bufferSize) :
    r.close? = some r.marked := by
  have hroom : (r.queues.any fun q => r.bufferSize ≤ q.length) = false := by
    rw [List.any_eq_false]
    intro q hq
    obtain ⟨i, hi, rfl⟩ := List.getElem_of_mem hq
    have hlt := room i (h.length ▸ hi)
    rw [queue, List.getElem?_eq_getElem hi, Option.getD_some] at hlt
    simpa using hlt
  rw [close?, isOpen, hroom]
  rfl

lemma queue_marked {r : Router} {i : Nat} (hi : i < r.queues.length) :
    r.marked.queue i = r.queue i ++ [.stop] := by
  simp [marked, queue, hi]

lemma partition_of_partitionOf {r : Router} {ref : MessageRef} {i : Nat}
    (h : r.partitionOf ref = .ok i) : ref.id.partition r.partitionCount = i := by
  obtain ⟨_ | channel, _ | timestamp⟩ := ref
  · cases h
  · cases h
  · cases h
  · exact Except.ok.inj h

/-! ### Runs of a router -/

/-- What a router does. -/
inductive Move where
  | accept (e : MessageEvent)
  | take (partition : Nat) (item : QueueItem)
  | close

/-- What routing events, taking items and closing lead to, in any order. An event is routed while
the router is open and the queue of its message has room; the router is closed while every queue has
room, be it closed already or not. -/
inductive Run (first : Router) : List Move → Router → Prop
  | start : Run first [] first
  | accept {moves : List Move} {r : Router} (run : Run first moves r) {e : MessageEvent} {i : Nat}
      (isOpen : r.closed = false) (target : r.partitionOf e.originRef = .ok i)
      (room : (r.queue i).length < r.bufferSize) :
      Run first (moves ++ [.accept e]) (r.route e).2
  | take {moves : List Move} {r next : Router} (run : Run first moves r) {i : Nat}
      {item : QueueItem} (taken : r.take? i = some (item, next)) :
      Run first (moves ++ [.take i item]) next
  | close {moves : List Move} {r : Router} (run : Run first moves r)
      (room : ∀ i < r.partitionCount, (r.queue i).length < r.bufferSize) :
      Run first (moves ++ [.close]) (r.close?.getD r)

def accepted (moves : List Move) : List MessageEvent := moves.filterMap fun
  | .accept e => some e
  | _ => none

def takenFrom (i : Nat) (moves : List Move) : List QueueItem := moves.filterMap fun
  | .take j item => if j = i then some item else none
  | _ => none

/-- The accepted events that are about a message of the partition. -/
def acceptedFor (r : Router) (i : Nat) (moves : List Move) : List MessageEvent :=
  (accepted moves).filter fun e => e.originId.partition r.partitionCount = i

/-- What every run keeps: no queue is longer than its buffer, what passed through a queue are the
accepted events of its partition, and the mark of the end is behind them. -/
structure Balanced (r : Router) (moves : List Move) : Prop where
  sized : r.Sized
  within : ∀ i, (r.queue i).length ≤ r.bufferSize
  passed : ∀ i < r.partitionCount, takenFrom i moves ++ r.queue i =
    (r.acceptedFor i moves).map .event ++ if r.closed then [.stop] else []
  ended : r.closed = true ↔ Move.close ∈ moves

lemma takenFrom_concat (i : Nat) (moves : List Move) (m : Move) :
    takenFrom i (moves ++ [m]) = takenFrom i moves ++ takenFrom i [m] :=
  List.filterMap_append

lemma acceptedFor_concat (r : Router) (i : Nat) (moves : List Move) (m : Move) :
    r.acceptedFor i (moves ++ [m]) = r.acceptedFor i moves ++ r.acceptedFor i [m] := by
  unfold acceptedFor accepted
  rw [List.filterMap_append, List.filter_append]

lemma acceptedFor_congr {r r' : Router} (h : r'.partitionCount = r.partitionCount) (i : Nat)
    (moves : List Move) : r'.acceptedFor i moves = r.acceptedFor i moves := by
  unfold acceptedFor
  rw [h]

lemma Balanced.start {partitions buffer : Int} {r : Router}
    (created : create? partitions buffer = .ok r) : r.Balanced [] := by
  obtain ⟨hsized, hopen, hempty, -⟩ := create?_cases created
  refine ⟨hsized, fun i => ?_, fun i _ => ?_, ?_⟩
  · rw [hempty]
    exact Nat.zero_le _
  · rw [hempty, hopen]
    rfl
  · simp [hopen]

lemma Balanced.accept {r : Router} {moves : List Move} (h : r.Balanced moves) {e : MessageEvent}
    {i : Nat} (isOpen : r.closed = false) (target : r.partitionOf e.originRef = .ok i)
    (room : (r.queue i).length < r.bufferSize) :
    (r.route e).2.Balanced (moves ++ [.accept e]) := by
  have hi := partitionOf_lt h.sized target
  have hfull : r.isFull i = false := by simpa [isFull] using room
  have hhome : e.originId.partition r.partitionCount = i := partition_of_partitionOf target
  rw [route_of_room isOpen target hfull]
  refine ⟨⟨(List.length_modify _ _ _).trans h.sized.length, h.sized.positive⟩, ?_, ?_, ?_⟩
  · intro j
    have hj := h.within j
    rw [queue_push hi]
    split
    · next hji =>
      subst hji
      rw [List.length_append]
      exact room
    · exact hj
  · intro j hj
    have hpassed := h.passed j hj
    -- The router is open, so there is no mark that the event would have to stand behind.
    have hpush : (r.push i (.event e)).closed = false := isOpen
    have hcount : (r.push i (.event e)).partitionCount = r.partitionCount := rfl
    have hnone : takenFrom j [.accept e] = [] := rfl
    rw [isOpen] at hpassed
    rw [takenFrom_concat, acceptedFor_congr hcount, acceptedFor_concat, queue_push hi, hpush, hnone,
      List.append_nil, List.map_append]
    by_cases hji : j = i
    · subst hji
      have hnew : r.acceptedFor j [.accept e] = [e] := by simp [acceptedFor, accepted, hhome]
      rw [if_pos rfl, hnew, ← List.append_assoc, hpassed]
      simp
    · have hnew : r.acceptedFor j [.accept e] = [] := by
        have hij : ¬i = j := fun h => hji h.symm
        simp [acceptedFor, accepted, hhome, hij]
      rw [if_neg hji, hnew, hpassed]
      simp
  · simpa [Router.push] using h.ended

lemma Balanced.take {r next : Router} {moves : List Move} (h : r.Balanced moves) {i : Nat}
    {item : QueueItem} (taken : r.take? i = some (item, next)) :
    next.Balanced (moves ++ [.take i item]) := by
  obtain ⟨hcount, hclosed, hlength, hqueue, hothers⟩ := take?_cases taken
  have hbuffer : next.bufferSize = r.bufferSize := by
    unfold take? at taken
    split at taken <;> cases taken
    rfl
  refine ⟨⟨?_, hcount ▸ h.sized.positive⟩, ?_, ?_, ?_⟩
  · rw [hlength, hcount, h.sized.length]
  · intro j
    have hj := h.within j
    rw [hbuffer]
    by_cases hji : j = i
    · subst hji
      rw [hqueue, List.length_cons] at hj
      omega
    · rwa [hothers j hji]
  · intro j hj
    have hpassed := h.passed j (hcount ▸ hj)
    have hnone : r.acceptedFor j [.take i item] = [] := rfl
    rw [takenFrom_concat, acceptedFor_congr hcount, acceptedFor_concat, hnone, List.append_nil,
      hclosed, ← hpassed]
    by_cases hji : j = i
    · subst hji
      rw [hqueue]
      simp [takenFrom]
    · have hij : ¬i = j := fun h => hji h.symm
      rw [hothers j hji]
      simp [takenFrom, hij]
  · rw [hclosed, h.ended]
    simp

lemma Balanced.close {r : Router} {moves : List Move} (h : r.Balanced moves)
    (room : ∀ i < r.partitionCount, (r.queue i).length < r.bufferSize) :
    (r.close?.getD r).Balanced (moves ++ [.close]) := by
  have hclosing : Move.close ∈ moves ++ [.close] := by simp
  cases hclosed : r.closed with
  | true =>
    rw [close?_of_closed hclosed, Option.getD_some]
    refine ⟨h.sized, h.within, fun i hi => ?_, by simp [hclosed]⟩
    have hnone : r.acceptedFor i [.close] = [] := rfl
    have htaken : takenFrom i [.close] = [] := rfl
    rw [takenFrom_concat, acceptedFor_concat, hnone, htaken, List.append_nil, List.append_nil]
    exact h.passed i hi
  | false =>
    rw [close?_of_room h.sized hclosed room, Option.getD_some]
    refine ⟨⟨(List.length_map _).trans h.sized.length, h.sized.positive⟩, fun i => ?_,
      fun i hi => ?_, by simp [marked]⟩
    · by_cases hi : i < r.queues.length
      · rw [queue_marked hi, List.length_append]
        exact room i (h.sized.length ▸ hi)
      · have hlength : r.marked.queues.length = r.queues.length := List.length_map _
        rw [queue, List.getElem?_eq_none (by omega)]
        exact Nat.zero_le _
    · have hpassed := h.passed i hi
      have hnone : r.acceptedFor i [.close] = [] := rfl
      have htaken : takenFrom i [.close] = [] := rfl
      have hcount : r.marked.partitionCount = r.partitionCount := rfl
      rw [hclosed] at hpassed
      rw [takenFrom_concat, acceptedFor_congr hcount, acceptedFor_concat, hnone, htaken,
        List.append_nil, List.append_nil, queue_marked (h.sized.length ▸ hi), ← List.append_assoc,
        hpassed]
      simp [marked]

/-- Every run keeps the queues in balance. -/
theorem Run.balanced {first r : Router} {moves : List Move} (run : Run first moves r)
    (h : first.Balanced []) : r.Balanced moves := by
  induction run with
  | start => exact h
  | accept _ isOpen target room ih => exact ih.accept isOpen target room
  | take _ taken ih => exact ih.take taken
  | close _ room ih => exact ih.close room

lemma Run.sizes {first r : Router} {moves : List Move} (run : Run first moves r) :
    r.partitionCount = first.partitionCount ∧ r.bufferSize = first.bufferSize := by
  induction run with
  | start => exact ⟨rfl, rfl⟩
  | @accept moves r run e i isOpen target room ih =>
    have hfull : r.isFull i = false := by simpa [isFull] using room
    rw [route_of_room isOpen target hfull]
    exact ih
  | take _ taken ih =>
    unfold take? at taken
    split at taken <;> cases taken
    exact ih
  | @close moves r run room ih =>
    unfold close?
    split_ifs <;> exact ih

/-! ### Events about one message -/

end Router

/-- Whether an event names a message of a channel as the one it is about: a new message by its own
timestamp, an edit by that of the nested message, and a delete by the timestamp that it gives or,
without one, by that of the last content. -/
def MessageEvent.concerns (e : MessageEvent) (channel timestamp : String) : Bool :=
  e.channel = some channel && match e.kind with
    | .new => e.timestamp = some timestamp
    | .edit => e.edited.bind (·.timestamp) = some timestamp
    | .delete =>
      if present e.deletedTimestamp then e.deletedTimestamp = some timestamp
      else e.previous.bind (·.timestamp) = some timestamp
    | .ignored => false

/-- However an event names a message, it is about that message. -/
lemma MessageEvent.originRef_of_concerns {e : MessageEvent} {channel timestamp : String}
    (h : e.concerns channel timestamp = true) : e.originRef = ⟨some channel, some timestamp⟩ := by
  unfold concerns at h
  rw [Bool.and_eq_true, decide_eq_true_eq] at h
  obtain ⟨hchannel, hnamed⟩ := h
  have htimestamp : e.originTimestamp = some timestamp := by
    unfold originTimestamp
    cases hk : e.kind with
    | new => simpa [hk] using hnamed
    | ignored => simp [hk] at hnamed
    | edit =>
      cases he : e.edited with
      | none => simp [hk, he] at hnamed
      | some sub => simpa [hk, he] using hnamed
    | delete =>
      rw [hk] at hnamed
      dsimp only at hnamed ⊢
      by_cases hgiven : present e.deletedTimestamp = true
      · rw [if_pos hgiven] at hnamed ⊢
        simpa using hnamed
      · rw [if_neg hgiven] at hnamed ⊢
        cases hp : e.previous with
        | none => simp [hp] at hnamed
        | some sub => simpa [hp] using hnamed
  rw [originRef, hchannel, htimestamp]

namespace Router

lemma Run.accept_concerning {first r : Router} {moves : List Move} (run : Run first moves r)
    {e : MessageEvent} {channel timestamp : String} {i : Nat} (isOpen : r.closed = false)
    (about : e.concerns channel timestamp = true)
    (home : (⟨channel, timestamp⟩ : MessageId).partition r.partitionCount = i)
    (room : (r.queue i).length < r.bufferSize) :
    Run first (moves ++ [.accept e]) (r.push i (.event e)) := by
  have target : r.partitionOf e.originRef = .ok i := by
    rw [MessageEvent.originRef_of_concerns about, ← home]
    rfl
  have hfull : r.isFull i = false := by simpa [isFull] using room
  have hrun := run.accept isOpen target room
  rwa [route_of_room isOpen target hfull] at hrun

lemma events_of_marks (es : List MessageEvent) (closed : Bool) :
    (es.map QueueItem.event ++ if closed then [QueueItem.stop] else []).filterMap
      QueueItem.event? = es := by
  have hes : (es.map QueueItem.event).filterMap QueueItem.event? = es := by
    rw [List.filterMap_map]
    exact List.filterMap_some
  rw [List.filterMap_append, hes]
  cases closed <;> exact List.append_nil es

/-- The events about a message all pass through the queue of its partition, and no other. -/
lemma Balanced.concerning {r : Router} {moves : List Move} (h : r.Balanced moves)
    (channel timestamp : String) {i : Nat} (hi : i < r.partitionCount) :
    ((takenFrom i moves ++ r.queue i).filterMap QueueItem.event?).filter
        (·.concerns channel timestamp) =
      if i = (⟨channel, timestamp⟩ : MessageId).partition r.partitionCount then
        (accepted moves).filter (·.concerns channel timestamp)
      else [] := by
  have hid : ∀ e : MessageEvent, e.concerns channel timestamp = true →
      e.originId = ⟨channel, timestamp⟩ := fun e he => by
    rw [MessageEvent.originId, MessageEvent.originRef_of_concerns he]
    rfl
  rw [h.passed i hi, events_of_marks, acceptedFor, List.filter_filter]
  split_ifs with hhome
  · apply List.filter_congr
    intro e _
    by_cases he : e.concerns channel timestamp = true
    · simp [he, hid e he, hhome]
    · simp [he]
  · rw [List.filter_eq_nil_iff]
    intro e _ hboth
    rw [Bool.and_eq_true, decide_eq_true_eq] at hboth
    rw [hid e hboth.1] at hboth
    exact hhome hboth.2.symm

/-- Along every run of a router, what was taken from a queue followed by what stands in it are the
accepted events of its partition in the order in which they were routed, and one mark behind them
exactly if the router was closed. No queue outgrows the buffer, and once the router is closed neither
routing nor closing changes anything. All events about one message come out of one queue, in the
order in which they were routed. -/
theorem queues_keep_order {partitions buffer : Int} {first r : Router} {moves : List Move}
    (created : create? partitions buffer = .ok first) (run : Run first moves r) :
    (r.partitionCount : Int) = partitions ∧
      (∀ i < r.partitionCount, takenFrom i moves ++ r.queue i =
        (r.acceptedFor i moves).map .event ++ if r.closed then [.stop] else []) ∧
      (r.closed = true ↔ Move.close ∈ moves) ∧
      (∀ i, ((r.queue i).length : Int) ≤ buffer) ∧
      (r.closed = true → (∀ e, r.route e = (.refused .closed, r)) ∧ r.close? = some r) ∧
      ∀ channel timestamp, ∃ home < r.partitionCount, ∀ i < r.partitionCount,
        ((takenFrom i moves ++ r.queue i).filterMap QueueItem.event?).filter
            (·.concerns channel timestamp) =
          if i = home then (accepted moves).filter (·.concerns channel timestamp) else [] := by
  have h := run.balanced (.start created)
  obtain ⟨-, -, -, hpartitions, hbuffer⟩ := create?_cases created
  obtain ⟨hcount, hsize⟩ := run.sizes
  refine ⟨hcount ▸ hpartitions, h.passed, h.ended, fun i => ?_, fun hclosed => ?_, ?_⟩
  · have hwithin := h.within i
    omega
  · exact ⟨route_of_closed hclosed, close?_of_closed hclosed⟩
  · intro channel timestamp
    exact ⟨_, partition_lt _ h.sized.positive, fun i hi => h.concerning channel timestamp hi⟩

namespace Traffic

def payload (timestamp : String) (more : List (String × Value)) : Value :=
  .map ([("type", .str "message"), ("channel", .str "C"), ("ts", .str timestamp)] ++ more)

def posted : MessageEvent := .ofPayload (payload "1" [("text", .str "hi")])

def changed : MessageEvent :=
  .ofPayload (payload "2" [("subtype", .str "message_changed"), ("message", .map [("ts", .str "1")])])

def deleted : MessageEvent :=
  .ofPayload (payload "3" [("subtype", .str "message_deleted"), ("deleted_ts", .null),
    ("previous_message", .map [("ts", .str "1")])])

def other : MessageEvent := .ofPayload (payload "4" [])

def start : Router := { partitionCount := 2, bufferSize := 3, queues := [[], []] }

/-- A message, its change and its deletion are routed, with another message in between; two items
are taken, and the router is closed. -/
def moves : List Move :=
  [.accept posted, .accept changed, .accept other, .take 1 (.event posted), .accept deleted,
   .take 1 (.event changed), .close]

/-- The router in which the queues hold given items. -/
def holding (queues : List (List QueueItem)) : Router := { start with queues }

def final : Router := { holding [[.event other, .stop], [.event deleted, .stop]] with closed := true }

lemma run : Run start moves final := by
  have home : (⟨"C", "1"⟩ : MessageId).partition 2 = 1 := by decide +kernel
  have home' : (⟨"C", "4"⟩ : MessageId).partition 2 = 0 := by decide +kernel
  have idle : Run start [] start := .start
  have posting : Run start [.accept posted] (holding [[], [.event posted]]) :=
    idle.accept_concerning rfl (by decide +kernel) home (by decide)
  have changing : Run start _ (holding [[], [.event posted, .event changed]]) :=
    posting.accept_concerning rfl (by decide +kernel : changed.concerns "C" "1" = true) home
      (by decide)
  have between : Run start _ (holding [[.event other], [.event posted, .event changed]]) :=
    changing.accept_concerning rfl (by decide +kernel : other.concerns "C" "4" = true) home'
      (by decide)
  have taken : (holding [[.event other], [.event posted, .event changed]]).take? 1 =
    some (.event posted, holding [[.event other], [.event changed]]) := rfl
  have deleting : Run start _ (holding [[.event other], [.event changed, .event deleted]]) :=
    (between.take taken).accept_concerning rfl
      (by decide +kernel : deleted.concerns "C" "1" = true) home (by decide)
  have taken' : (holding [[.event other], [.event changed, .event deleted]]).take? 1 =
    some (.event changed, holding [[.event other], [.event deleted]]) := rfl
  exact (deleting.take taken').close (by decide)

lemma acceptedFor_final : final.acceptedFor 1 moves = [posted, changed, deleted] := by
  have hposted : posted.originId.partition 2 = 1 := by decide +kernel
  have hchanged : changed.originId.partition 2 = 1 := by decide +kernel
  have hdeleted : deleted.originId.partition 2 = 1 := by decide +kernel
  have hother : other.originId.partition 2 = 0 := by decide +kernel
  have hcount : final.partitionCount = 2 := rfl
  simp [acceptedFor, accepted, moves, hcount, hposted, hchanged, hdeleted, hother]

end Traffic

/-- The message, its change and its deletion come out of queue 1 in this order, before the mark. -/
theorem deletion_comes_last :
    create? 2 3 = .ok Traffic.start ∧ Run Traffic.start Traffic.moves Traffic.final ∧
      takenFrom 1 Traffic.moves ++ Traffic.final.queue 1 =
        [.event Traffic.posted, .event Traffic.changed, .event Traffic.deleted, .stop] := by
  have created : create? 2 3 = .ok Traffic.start := rfl
  have hpassed := (queues_keep_order created Traffic.run).2.1 1 (by decide)
  rw [Traffic.acceptedFor_final] at hpassed
  exact ⟨created, Traffic.run, hpassed⟩

end Router

end ChatEngine
