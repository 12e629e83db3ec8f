import ChatEngine.Proofs.PartitionedRuns
import ChatEngine.Proofs.TrackedOrigins
import ChatEngine.Proofs.TrackedReplies

/-!
# Spared origins

Processing an event reads and writes the entry of its original message, in a tracker that all
original messages share. What is said of the others is told here against everything that the tracker
was asked for before: their entries stay as they are, unless a first reply was posted and there was
no room left. Then one entry goes, and it is the one used longest ago. An event for which there is
no entry, and no reply is posted, leaves even the order of use as it was.
-/

namespace ChatEngine
open Outbox ResponseTracker

variable {σ : Type}

/-- Whether an event is about an original message; one that nulls out a part is about none. -/
def MessageEvent.About (e : MessageEvent) (origin : MessageId) : Prop :=
  e.originRef = ⟨some origin.channel, some origin.timestamp⟩

/-- Whether a reply to an original message was posted: not shown to one user, but sent, and
confirmed. -/
def Transcript.Posts (t : Transcript) (origin : MessageId) : Prop :=
  ∃ action message id, .called origin ⟨.send action message, some id⟩ ∈ t

/-- What processing an event asks of the tracker: the responses to the original message are looked
for, and what is on record after the calls takes their place. A deletion that finds no responses
ends there. -/
def Processor.requests [Clocked σ] (p : Processor σ) (event : MessageEvent) (s : State σ) :
    List ResponseTracker.Request :=
  let rerecord (origin : MessageId) : ResponseTracker.Request :=
    .put origin (recorded ((p.transcript event s).callsFor origin))
  match p.task event with
  | .skip => []
  | .withdraw origin =>
    if s.tracker.contains origin then [.get origin, rerecord origin] else [.get origin]
  | .answer message => [.get message.originId, rerecord message.originId]

/-- What can be reached from a new tracker by processing events, with any processors, and by other
requests in between; listed is everything that the tracker was asked for, the latest first. -/
inductive Tended [Clocked σ] (capacity : Int) : List Handling → Processor.State σ → Prop
  | start {tracker : ResponseTracker} (host : Host σ)
      (created : ResponseTracker.create? capacity = some tracker) :
      Tended capacity [] ⟨tracker, host⟩
  | process {past : List Handling} {s : Processor.State σ} (before : Tended capacity past s)
      (p : Processor σ) (event : MessageEvent) :
      Tended capacity (s.tracker.serve (p.requests event s) past).1 (p.process event s).2
  | request {past : List Handling} {s : Processor.State σ} (before : Tended capacity past s)
      (request : ResponseTracker.Request) :
      Tended capacity (s.tracker.handling request :: past)
        { s with tracker := (s.tracker.handle request).2 }
  | elsewhere {past : List Handling} {s : Processor.State σ} (before : Tended capacity past s)
      (host : Host σ) : Tended capacity past { s with host }

/-- What an event may do to a tracker that was asked for something in the past: only the entry of
its own original message changes, and one other may be lost. -/
structure Spares (capacity : Int) (past : List Handling) (event : MessageEvent) (u : Transcript)
    (before after : ResponseTracker) (lost : Option MessageId) : Prop where
  others : ∀ origin, ¬event.About origin →
    after.cache.peek? origin = if lost = some origin then none else before.cache.peek? origin
  /-- An entry is lost exactly when a first reply was posted and the tracker was full. -/
  loses_iff : lost.isSome = true ↔ before.contains event.originId = false ∧
    u.Posts event.originId ∧ (before.size : Int) = capacity
  /-- What is lost was used, and everything else that was held has been used since. -/
  oldest : ∀ origin ∈ lost, before.contains origin = true ∧ origin ∈ ResponseTracker.uses past ∧
    ∀ held, before.contains held = true → held ≠ origin →
      held ∈ usedSince origin (ResponseTracker.uses past)
  /-- Without an entry and without a reply that was posted, the order of use is kept as well. -/
  idle : (∀ origin, event.About origin → before.contains origin = false) →
    ¬u.Posts event.originId → after = before

/-! ### Reading and replacing an entry -/

section
variable {t : ResponseTracker} {origin : MessageId}

/-- Looking for an origin makes no difference to what is given up for it. -/
lemma displaced?_get (t : ResponseTracker) (origin : MessageId) (responses : List Response) :
    (t.get origin).2.displaced? origin responses = t.displaced? origin responses := by
  cases hfound : t.cache.peek? origin with
  | none => rw [get_of_peek?_none hfound]
  | some prior =>
    have hheld : t.cache.contains origin = true := by rw [Lru.contains, hfound, Option.isSome_some]
    have hheld' : (t.get origin).2.cache.contains origin = true := by
      rw [Lru.contains, peek?_get, hfound, Option.isSome_some]
    simp [ResponseTracker.displaced?, Lru.displaced?, hheld, hheld']

lemma peek?_rerecorded (sound : t.Sound) {other : MessageId} (hne : other ≠ origin)
    (responses : List Response) :
    (Processor.rerecorded t origin responses).cache.peek? other =
      if t.displaced? origin responses = some other then none else t.cache.peek? other := by
  rw [Processor.rerecorded, peek?_put (sound.get origin), if_neg hne, displaced?_get, peek?_get]

/-- Putting nothing where nothing was found changes nothing. -/
lemma rerecorded_nil (absent : t.cache.peek? origin = none) :
    Processor.rerecorded t origin [] = t := by
  rw [Processor.rerecorded, get_of_peek?_none absent]
  exact (ResponseTracker.Request.Inert.empty (contains_eq_false.mpr absent)).handle

end

/-! ### What goes on record for a message without an entry -/

/-- Without earlier responses only replies that were posted go on record. -/
lemma recorded_eq_nil_iff {o : Outbox σ} {message : IncomingMessage} {replies : List PendingReply}
    {calls : List Call} (asked : calls.map (·.operation) = o.operations message replies []) :
    recorded calls = [] ↔
      ¬∃ action out id, (⟨.send action out, some id⟩ : Call) ∈ calls := by
  have huntouched : touched (calls.map (·.operation)) = [] := by
    rw [asked]
    exact (o.touched_operations message replies (earlier_keyed []) (earlier_nodup [])).eq_nil
  constructor
  · rintro hnone ⟨action, out, id, hcall⟩
    have hmem : (⟨action, id⟩ : Response) ∈ recorded calls :=
      List.mem_filterMap.mpr ⟨_, hcall, rfl⟩
    rw [hnone] at hmem
    cases hmem
  · intro hposts
    refine List.eq_nil_iff_forall_not_mem.mpr fun r hr => ?_
    rcases mem_recorded hr with ⟨⟨op, confirmation⟩, hcall, content, hwritten⟩ | htouched
    · cases op with
      | send action out =>
        cases confirmation with
        | none => cases hwritten
        | some id => exact hposts ⟨action, out, id, hcall⟩
      | update action target text blocks =>
        have hmem : (⟨action, target⟩ : Response) ∈ touched (calls.map (·.operation)) :=
          List.mem_filterMap.mpr ⟨_, List.mem_map_of_mem hcall, rfl⟩
        rw [huntouched] at hmem
        cases hmem
      | whisper action message => cases confirmation <;> cases hwritten
      | delete action target => cases confirmation <;> cases hwritten
    · rw [huntouched] at htouched
      cases htouched

lemma Transcript.posts_iff {t : Transcript} {origin : MessageId} :
    t.Posts origin ↔ ∃ action out id, ⟨.send action out, some id⟩ ∈ t.callsFor origin := by
  simp only [mem_callsFor]
  rfl

/-! ### What an event does to the tracker -/

namespace Processor

/-- Processing an event leaves the tracker as its requests do. -/
lemma process_tracker [Clocked σ] (p : Processor σ) (event : MessageEvent) (s : State σ)
    (past : List Handling) :
    (p.process event s).2.tracker = (s.tracker.serve (p.requests event s) past).2 := by
  have step := p.observe_handled event s
  rw [← process_state] at step
  unfold requests
  generalize p.transcript event s = happened at step ⊢
  generalize (p.process event s).2.tracker = next at step ⊢
  cases step with
  | skipped task_eq => rw [task_eq]; rfl
  | unrecorded task_eq absent =>
    rw [task_eq]
    dsimp only
    rw [contains_eq_false.mpr absent, if_neg Bool.false_ne_true]
    exact (get_of_peek?_none absent).symm
  | @withdrawn origin prior calls host task_eq present performed =>
    have hheld : s.tracker.contains origin = true := by
      rw [contains_eq, present, Option.isSome_some]
    rw [task_eq]
    dsimp only
    rw [hheld, if_pos rfl, Transcript.callsFor_recorded]
    rfl
  | answered asked later task_eq performed =>
    rw [task_eq]
    dsimp only
    rw [Transcript.callsFor_answered, Transcript.callsFor_recorded]
    rfl

lemma about_of_origin? {p : Processor σ} {event : MessageEvent} {origin : MessageId}
    (h : p.origin? event = some origin) :
    event.About event.originId ∧ event.originId = origin := by
  obtain ⟨hkind, hvalid, horigin⟩ := origin?_cases h
  exact ⟨MessageEvent.originRef_of_valid hkind hvalid, horigin⟩

end Processor

section
variable {capacity : Int} {past : List Handling} {event : MessageEvent} {u : Transcript}
  {t : ResponseTracker}

lemma Spares.unchanged (hu : ¬u.Posts event.originId) : Spares capacity past event u t t none where
  others _ _ := by rw [if_neg nofun]
  loses_iff := ⟨nofun, fun h => absurd h.2.1 hu⟩
  oldest := nofun
  idle _ _ := rfl

/-- Reading and replacing the entry of the original message spares the others. -/
lemma Spares.rerecorded (hr : ResponseTracker.Remembers past t)
    (hcapacity : (t.cache.capacity : Int) = capacity) (about : event.About event.originId)
    {responses : List Response}
    (posted : t.contains event.originId = false →
      (responses = [] ↔ ¬u.Posts event.originId)) :
    Spares capacity past event u t (Processor.rerecorded t event.originId responses)
      (t.displaced? event.originId responses) where
  others origin hother := by
    have hne : origin ≠ event.originId := by
      rintro rfl
      exact hother about
    exact peek?_rerecorded hr.sound hne responses
  loses_iff := by
    constructor
    · intro hlost
      obtain ⟨origin, hd⟩ := Option.isSome_iff_exists.mp hlost
      have hlost : ResponseTracker.Request.displaced? t (.put event.originId responses) =
          some origin := hd
      obtain ⟨other, more, hrequest, hmore, habsent, hfull, -⟩ := displaced?_cases hr.sound hlost
      cases hrequest
      exact ⟨habsent, not_not.mp fun hnot => hmore ((posted habsent).mpr hnot), by omega⟩
    · rintro ⟨habsent, hposts, hfull⟩
      have hmore : responses ≠ [] := fun hnil => (posted habsent).mp hnil hposts
      obtain ⟨origin, hd⟩ := hr.displaced?_of_full hmore habsent (by omega)
      exact Option.isSome_iff_exists.mpr ⟨origin, hd⟩
  oldest origin hd := by
    have hlost : ResponseTracker.Request.displaced? t (.put event.originId responses) =
        some origin := hd
    have hheld := contains_of_displaced? hr.sound hlost
    have hused := hr.ordered.subset (Lru.contains_iff.mp hheld)
    exact ⟨hheld, mem_recency.mp hused, hr.oldest hlost⟩
  idle habsent hposts := by
    have hnone := habsent _ about
    rw [(posted hnone).mpr hposts]
    exact rerecorded_nil (contains_eq_false.mp hnone)

end

lemma Processor.Handled.spares [Clocked σ] {p : Processor σ} {event : MessageEvent}
    {u : Transcript} {t next : ResponseTracker} (step : p.Handled event t u next)
    {capacity : Int} {past : List Handling} (hr : ResponseTracker.Remembers past t)
    (hcapacity : (t.cache.capacity : Int) = capacity) :
    ∃ lost, Spares capacity past event u t next lost := by
  have silent : ¬Transcript.Posts [] event.originId := fun ⟨_, _, _, hmem⟩ => nomatch hmem
  cases step with
  | skipped => exact ⟨none, .unchanged silent⟩
  | unrecorded => exact ⟨none, .unchanged silent⟩
  | @withdrawn origin prior calls host task_eq present performed =>
    have hevent : p.origin? event = some origin := by rw [origin?, task_eq]
    obtain ⟨about, rfl⟩ := about_of_origin? hevent
    refine ⟨_, .rerecorded hr hcapacity about fun habsent => ?_⟩
    rw [contains_eq, present] at habsent
    cases habsent
  | @answered message calls asked later task_eq performed =>
    have hevent : p.origin? event = some message.originId := by rw [origin?, task_eq]
    obtain ⟨about, horigin⟩ := about_of_origin? hevent
    rw [← horigin] at performed ⊢
    refine ⟨_, .rerecorded hr hcapacity about fun habsent => ?_⟩
    have hnone : t.records event.originId = [] := by
      rw [ResponseTracker.records, contains_eq_false.mp habsent, Option.getD_none]
    have hasked := asked_of_performed performed
    rw [hnone] at hasked
    rw [recorded_eq_nil_iff hasked, Transcript.posts_iff, Transcript.callsFor_answered,
      Transcript.callsFor_recorded]

/-! ### Runs -/

lemma Tended.remembers [Clocked σ] {capacity : Int} {past : List Handling} {s : Processor.State σ}
    (h : Tended capacity past s) :
    ResponseTracker.Remembers past s.tracker ∧ (s.tracker.cache.capacity : Int) = capacity := by
  induction h with
  | @start tracker host created =>
    refine ⟨.start created, ?_⟩
    unfold ResponseTracker.create? at created
    split at created
    · cases created
    · cases created
      dsimp only
      omega
  | @process past s before p event ih =>
    rw [p.process_tracker event s past, serve_capacity]
    exact ⟨ih.1.serve _, ih.2⟩
  | @request past s before request ih =>
    dsimp only
    rw [handle_capacity]
    exact ⟨ih.1.handle request, ih.2⟩
  | elsewhere before host ih => exact ih

/-- Processing an event spares all other original messages, but for the one used longest ago if the
event's first reply needs its place. -/
theorem processing_spares_other_origins [Clocked σ] {capacity : Int} {past : List Handling}
    {s : Processor.State σ} (tended : Tended capacity past s) (p : Processor σ)
    (event : MessageEvent) :
    let after := (p.process event s).2.tracker
    after = (s.tracker.serve (p.requests event s) past).2 ∧
      ∃ lost, Spares capacity past event (p.transcript event s) s.tracker after lost := by
  intro after
  obtain ⟨hr, hcapacity⟩ := tended.remembers
  have step := p.observe_handled event s
  rw [← Processor.process_state] at step
  exact ⟨p.process_tracker event s past, step.spares hr hcapacity⟩

/-- Processes events one after the other: what the tracker was asked for, the latest first, and the
state after the last one. -/
def Processor.tend [Clocked σ] (p : Processor σ) :
    List MessageEvent → List Handling → State σ → List Handling × State σ
  | [], past, s => (past, s)
  | event :: rest, past, s =>
    p.tend rest (s.tracker.serve (p.requests event s) past).1 (p.process event s).2

lemma Tended.tend [Clocked σ] {capacity : Int} {past : List Handling} {s : Processor.State σ}
    (tended : Tended capacity past s) (p : Processor σ) (events : List MessageEvent) :
    Tended capacity (p.tend events past s).1 (p.tend events past s).2 := by
  induction events generalizing past s with
  | nil => exact tended
  | cons event rest ih => exact ih (tended.process p event)

namespace Echo

/-- Two greetings fill a tracker, and the first one is changed afterwards. -/
def crowded : List Handling × Processor.State Simulation.Workspace :=
  processor.tend [said "1" "hi", said "2" "hi", changed "1" "hi"] [] ⟨⟨{ capacity := 2 }⟩, host⟩

end Echo

/-- A third greeting takes the place of the second one, for which nothing was done since. -/
theorem second_greeting_is_lost :
    let (past, s) := Echo.crowded
    let after := (Echo.processor.process (Echo.said "3" "hi") s).2.tracker
    Tended 2 past s ∧
      (∃ lost, Spares 2 past (Echo.said "3" "hi")
        (Echo.processor.transcript (Echo.said "3" "hi") s) s.tracker after lost) ∧
      [⟨"C", "1"⟩, ⟨"C", "2"⟩, ⟨"C", "3"⟩].map s.tracker.contains = [true, true, false] ∧
      [⟨"C", "1"⟩, ⟨"C", "2"⟩, ⟨"C", "3"⟩].map after.contains = [true, false, true] := by
  have created : ResponseTracker.create? 2 = some ⟨{ capacity := 2 }⟩ := rfl
  have tended : Tended 2 Echo.crowded.1 Echo.crowded.2 := (Tended.start Echo.host created).tend _ _
  have hspares := processing_spares_other_origins tended Echo.processor (Echo.said "3" "hi")
  rw [← Prod.eta Echo.crowded]
  dsimp only
  exact ⟨tended, hspares.2, by decide +kernel, by decide +kernel⟩

end ChatEngine
