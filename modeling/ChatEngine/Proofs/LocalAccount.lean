import ChatEngine.Proofs.SteadyActions
import ChatEngine.Proofs.Transcript
import Mathlib.Data.List.Perm.Subperm

/-!
# Original messages kept apart

Where the actions and the driver answer for one original message by what happened to that message
alone, and no entry of the tracker is ever given up, events about other messages make no difference
to it: its calls and its entry are what its own events lead to, one after the other. `Oracle` is
such a way to answer, and `Oracle.handle` is what an event then does to the account of its message.
-/

namespace ChatEngine
open Outbox

variable {σ : Type}

/-- The original message that a happening is about. -/
def Happening.origin : Happening → MessageId
  | .answered message _ => message.originId
  | .called origin _ => origin
  | .evicted origin => origin

namespace Transcript

/-- What happened to one original message. -/
def about (t : Transcript) (origin : MessageId) : Transcript :=
  t.filter fun x => x.origin = origin

/-- The calls of the driver for one original message. -/
def callsFor (t : Transcript) (origin : MessageId) : List Call :=
  (t.about origin).filterMap fun
    | .called _ call => some call
    | _ => none

lemma about_append (t u : Transcript) (origin : MessageId) :
    about (t ++ u) origin = t.about origin ++ u.about origin :=
  List.filter_append t u

lemma mem_callsFor {t : Transcript} {origin : MessageId} {call : Call} :
    call ∈ t.callsFor origin ↔ .called origin call ∈ t := by
  unfold callsFor about
  rw [List.mem_filterMap]
  constructor
  · rintro ⟨x, hx, heq⟩
    obtain ⟨hmem, horigin⟩ := List.mem_filter.mp hx
    cases x with
    | called other made =>
      obtain rfl : made = call := Option.some.inj heq
      obtain rfl : other = origin := of_decide_eq_true horigin
      exact hmem
    | answered message replies => cases heq
    | evicted other => cases heq
  · intro hmem
    exact ⟨_, List.mem_filter.mpr ⟨hmem, by simp [Happening.origin]⟩, rfl⟩

lemma callsFor_answered (message : IncomingMessage) (replies : List PendingReply)
    (t : Transcript) (origin : MessageId) :
    callsFor (.answered message replies :: t) origin = t.callsFor origin := by
  unfold callsFor about
  rw [List.filter_cons]
  split <;> rfl

lemma about_of_origin {t : Transcript} {origin : MessageId} (h : ∀ x ∈ t, x.origin = origin) :
    t.about origin = t :=
  List.filter_eq_self.mpr fun x hx => by simpa using h x hx

lemma about_of_other {t : Transcript} {origin other : MessageId} (hne : other ≠ origin)
    (h : ∀ x ∈ t, x.origin = other) : t.about origin = [] :=
  List.filter_eq_nil_iff.mpr fun x hx => by simpa [h x hx] using hne

end Transcript

/-- Answers of the actions and the driver that depend on nothing but what happened to the same
original message before. -/
structure Oracle where
  replies : Transcript → IncomingMessage → List PendingReply
  outcome : MessageId → Transcript → (op : Operation) → Option op.Confirmation

namespace Oracle

/-- Whether a happening is as foretold, after what happened before. -/
def Foretells (o : Oracle) (before : Transcript) : Happening → Prop
  | .answered message replies => replies = o.replies (before.about message.originId) message
  | .called origin call => call.confirmation = o.outcome origin (before.about origin) call.operation
  | .evicted _ => True

/-- Whether everything is as foretold, after what happened before. -/
def Explains (o : Oracle) (before : Transcript) : Transcript → Prop
  | [] => True
  | x :: rest => o.Foretells before x ∧ o.Explains (before ++ [x]) rest

lemma explains_append (o : Oracle) (before t u : Transcript) :
    o.Explains before (t ++ u) ↔ o.Explains before t ∧ o.Explains (before ++ t) u := by
  induction t generalizing before with
  | nil => simp [Explains]
  | cons x rest ih => simp [Explains, ih, and_assoc]

/-- The calls for some operations, with the confirmations that are foretold. -/
def calls (o : Oracle) (origin : MessageId) : Transcript → List Operation → List Call
  | _, [] => []
  | history, op :: rest =>
    let call : Call := ⟨op, o.outcome origin history op⟩
    call :: o.calls origin (history ++ [.called origin call]) rest

lemma calls_eq {o : Oracle} {origin : MessageId} {before : Transcript} {made : List Call}
    (h : o.Explains before (made.map (.called origin))) :
    made = o.calls origin (before.about origin) (made.map (·.operation)) := by
  induction made generalizing before with
  | nil => rfl
  | cons call rest ih =>
    obtain ⟨hfirst, hrest⟩ := h
    have hcall : call =
        ⟨call.operation, o.outcome origin (before.about origin) call.operation⟩ := by
      obtain ⟨op, confirmation⟩ := call
      exact congrArg (Call.mk op) hfirst
    have hself : Transcript.about [.called origin call] origin = [.called origin call] :=
      Transcript.about_of_origin (by simp [Happening.origin])
    have hlater := ih hrest
    rw [Transcript.about_append, hself] at hlater
    rw [List.map_cons, calls, ← hcall, ← hlater]

end Oracle

/-! ### Room for every original message -/

/-- The tracker only holds the listed original messages, and has room for all of them. -/
structure ResponseTracker.Roomy (origins : List MessageId) (tracker : ResponseTracker) : Prop where
  sound : tracker.Sound
  listed : ∀ origin, tracker.cache.peek? origin ≠ none → origin ∈ origins
  room : origins.dedup.length ≤ tracker.cache.capacity

namespace ResponseTracker.Roomy

variable {origins : List MessageId} {tracker : ResponseTracker}

lemma of_create {capacity : Int} (created : ResponseTracker.create? capacity = some tracker)
    (hfew : (origins.dedup.length : Int) ≤ capacity) : Roomy origins tracker := by
  have hsound := ResponseTracker.create?_sound created
  unfold ResponseTracker.create? at created
  split at created
  · cases created
  · cases created
    have hroom : origins.dedup.length ≤ capacity.toNat := by omega
    exact ⟨hsound, fun origin hentry => absurd rfl hentry, hroom⟩

lemma displaced (h : Roomy origins tracker) {origin : MessageId} (hmem : origin ∈ origins)
    (responses : List Response) : tracker.displaced? origin responses = none := by
  unfold ResponseTracker.displaced? Lru.displaced?
  split
  · rfl
  · refine if_pos (or_iff_not_imp_left.mpr fun hnew => ?_)
    rw [Lru.contains_iff] at hnew
    -- A new origin and those held are distinct and listed, so there are at most as many.
    have hnodup : (origin :: tracker.cache.entries.map Prod.fst).Nodup :=
      List.nodup_cons.mpr ⟨hnew, h.sound.bounded.distinct⟩
    have hsubset : (origin :: tracker.cache.entries.map Prod.fst) ⊆ origins.dedup := by
      intro k hk
      rw [List.mem_dedup]
      rcases List.mem_cons.mp hk with rfl | hk
      · exact hmem
      · apply h.listed
        intro hnone
        exact Entries.get?_eq_none_iff.mp hnone hk
    have hlength := (List.subperm_of_subset hnodup hsubset).length_le
    have hroom := h.room
    rw [List.length_cons, List.length_map] at hlength
    rw [Lru.size]
    omega

lemma get (h : Roomy origins tracker) (origin : MessageId) :
    Roomy origins (tracker.get origin).2 where
  sound := h.sound.get origin
  listed k hk := h.listed k (by simpa using hk)
  room := by
    have hcapacity : (tracker.get origin).2.cache.capacity = tracker.cache.capacity :=
      Lru.get_capacity tracker.cache origin
    rw [hcapacity]
    exact h.room

lemma put (h : Roomy origins tracker) {origin : MessageId} (hmem : origin ∈ origins)
    (responses : List Response) : Roomy origins (tracker.put origin responses) where
  sound := h.sound.put origin responses
  listed k hk := by
    rw [ResponseTracker.peek?_put h.sound, h.displaced hmem] at hk
    by_cases hko : k = origin
    · rwa [hko]
    · rw [if_neg hko, if_neg (by simp)] at hk
      exact h.listed k hk
  room := by
    have hcapacity : (tracker.put origin responses).cache.capacity = tracker.cache.capacity := by
      unfold ResponseTracker.put
      split <;> rfl
    rw [hcapacity]
    exact h.room

end ResponseTracker.Roomy

/-! ### The account of an original message -/

/-- What is known of one original message: what happened to it, and its entry in the tracker. -/
structure Account where
  history : Transcript
  entry : Option (List Response)

def account (t : Transcript) (tracker : ResponseTracker) (origin : MessageId) : Account :=
  ⟨t.about origin, tracker.cache.peek? origin⟩

/-- The original message that processing an event is about, if it does anything. -/
def Processor.origin? (p : Processor σ) (event : MessageEvent) : Option MessageId :=
  match p.task event with
  | .skip => none
  | .withdraw origin => some origin
  | .answer message => some message.originId

/-- The events of a list that are about an original message. -/
def Processor.only (p : Processor σ) (origin : MessageId) (events : List MessageEvent) :
    List MessageEvent :=
  events.filter fun e => p.origin? e = some origin

/-- The account after calls that leave some responses on record. -/
def Account.close (history : Transcript) (origin : MessageId) (calls : List Call) : Account :=
  ⟨history ++ calls.map (.called origin),
    if (recorded calls).isEmpty then none else some (recorded calls)⟩

/-- What an event does to the account of the original message that it is about. -/
def Oracle.handle (o : Oracle) (p : Processor σ) (a : Account) (event : MessageEvent) : Account :=
  match p.task event with
  | .skip => a
  | .withdraw origin =>
    match a.entry with
    | none => a
    | some prior => .close a.history origin (o.calls origin a.history (withdrawals prior))
  | .answer message =>
    let replies := o.replies a.history message
    let asked := a.history ++ [.answered message replies]
    let ops := p.outbox.operations message replies (earlier (a.entry.getD []))
    .close asked message.originId (o.calls message.originId asked ops)

lemma Transcript.about_calls (origin : MessageId) (calls : List Call) :
    Transcript.about (calls.map (.called origin)) origin = calls.map (.called origin) :=
  about_of_origin fun x hx => by
    obtain ⟨call, -, rfl⟩ := List.mem_map.mp hx
    rfl

lemma Transcript.about_calls_other {origin other : MessageId} (hne : other ≠ origin)
    (calls : List Call) : Transcript.about (calls.map (.called other)) origin = [] :=
  about_of_other hne fun x hx => by
    obtain ⟨call, -, rfl⟩ := List.mem_map.mp hx
    rfl

/-- The calls for a message, of what happens when its entry is replaced after them. -/
lemma Transcript.callsFor_recorded (t : ResponseTracker) (origin : MessageId) (calls : List Call)
    (responses : List Response) :
    Transcript.callsFor (calls.map (.called origin) ++ Processor.evictions t origin responses)
      origin = calls := by
  have hevictions : (Processor.evictions t origin responses).callsFor origin = [] := by
    refine List.filterMap_eq_nil_iff.mpr fun x hx => ?_
    obtain ⟨evicted, -, rfl⟩ := List.mem_map.mp (List.mem_of_mem_filter hx)
    rfl
  unfold callsFor at hevictions ⊢
  rw [about_append, List.filterMap_append, hevictions, List.append_nil, about_calls,
    List.filterMap_map]
  exact List.filterMap_some

lemma account_rerecorded {origins : List MessageId} {tracker : ResponseTracker}
    (h : tracker.Roomy origins) {origin : MessageId} (hmem : origin ∈ origins) (t : Transcript)
    (calls : List Call) (k : MessageId) :
    account (t ++ (calls.map (.called origin) ++
        Processor.evictions tracker origin (recorded calls)))
      (Processor.rerecorded tracker origin (recorded calls)) k =
      if k = origin then .close (t.about origin) origin calls else account t tracker k := by
  have hget := h.get origin
  have hnone : Processor.evictions tracker origin (recorded calls) = [] := by
    rw [Processor.evictions, hget.displaced hmem]
    rfl
  unfold account Processor.rerecorded
  rw [hnone, List.append_nil, Transcript.about_append, ResponseTracker.peek?_put hget.sound,
    hget.displaced hmem, ResponseTracker.peek?_get]
  simp only [reduceCtorEq, if_false]
  by_cases hk : k = origin
  · subst hk
    rw [if_pos rfl, if_pos rfl, Transcript.about_calls]
    rfl
  · rw [if_neg hk, if_neg hk, Transcript.about_calls_other (fun h => hk h.symm), List.append_nil]

namespace Processor

/-- An event changes the account of the original message that it is about, as foretold, and no
other. -/
theorem Handled.account_eq [Clocked σ] {p : Processor σ} {event : MessageEvent}
    {t u : Transcript} {tracker next : ResponseTracker} (step : p.Handled event tracker u next)
    {origins : List MessageId} (hroomy : tracker.Roomy origins)
    (hmem : ∀ origin ∈ p.origin? event, origin ∈ origins) {o : Oracle} (hex : o.Explains t u)
    (k : MessageId) :
    account (t ++ u) next k =
      if p.origin? event = some k then o.handle p (account t tracker k) event
      else account t tracker k := by
  cases step with
  | skipped task_eq => simp [origin?, task_eq]
  | @unrecorded origin task_eq absent =>
    have horigin : p.origin? event = some origin := by rw [origin?, task_eq]
    rw [List.append_nil, horigin]
    split_ifs with hk
    · cases hk
      simp [Oracle.handle, task_eq, account, absent]
    · rfl
  | @withdrawn origin prior calls host task_eq present performed =>
    have horigin : p.origin? event = some origin := by rw [origin?, task_eq]
    have hcalls := Oracle.calls_eq ((o.explains_append t _ _).mp hex).1
    rw [asked_of_performed performed] at hcalls
    rw [account_rerecorded hroomy (hmem origin horigin), horigin]
    by_cases hk : k = origin
    · subst hk
      rw [if_pos rfl, if_pos rfl, Oracle.handle, task_eq]
      simp only [account, present]
      rw [← hcalls]
    · rw [if_neg hk, if_neg fun h => hk (Option.some.inj h).symm]
  | @answered message calls host later task_eq performed =>
    have horigin : p.origin? event = some message.originId := by rw [origin?, task_eq]
    let replies := (p.dialog.replies message host).1
    obtain ⟨hreplies, hrest⟩ := hex
    have hcalls := Oracle.calls_eq ((o.explains_append _ _ _).mp hrest).1
    have hself : Transcript.about [.answered message replies] message.originId =
        [.answered message replies] := Transcript.about_of_origin (by simp [Happening.origin])
    rw [asked_of_performed performed, Transcript.about_append, hself] at hcalls
    rw [List.append_cons, account_rerecorded hroomy (hmem _ horigin), horigin]
    by_cases hk : k = message.originId
    · subst hk
      rw [if_pos rfl, if_pos rfl, Oracle.handle, task_eq, Transcript.about_append, hself]
      simp only [account]
      rw [← hreplies]
      exact congrArg _ hcalls
    · have hother : Transcript.about [.answered message replies] k = [] :=
        Transcript.about_of_other (fun h => hk h.symm) (by simp [Happening.origin])
      rw [if_neg hk, if_neg fun h => hk (Option.some.inj h).symm, account, Transcript.about_append,
        hother, List.append_nil]
      rfl

lemma Handled.roomy [Clocked σ] {p : Processor σ} {event : MessageEvent} {u : Transcript}
    {tracker next : ResponseTracker} (step : p.Handled event tracker u next)
    {origins : List MessageId} (h : tracker.Roomy origins)
    (hmem : ∀ origin ∈ p.origin? event, origin ∈ origins) : next.Roomy origins := by
  cases step with
  | skipped => exact h
  | unrecorded => exact h
  | @withdrawn origin _ _ _ task_eq =>
    exact (h.get origin).put (hmem origin (by rw [origin?, task_eq]; rfl)) _
  | @answered message _ _ _ task_eq =>
    exact (h.get message.originId).put (hmem _ (by rw [origin?, task_eq]; rfl)) _

end Processor

/-! ### Events processed one after the other -/

/-- Processing events one after the other, with what happens, while the world may change in
between. -/
inductive Sequential [Clocked σ] (p : Processor σ) (first : Processor.State σ) :
    List MessageEvent → Transcript → Processor.State σ → Prop
  | start : Sequential p first [] [] first
  | process {events : List MessageEvent} {t : Transcript} {s : Processor.State σ}
      (run : Sequential p first events t s) (event : MessageEvent) :
      Sequential p first (events ++ [event]) (t ++ p.transcript event s) (p.process event s).2
  | elsewhere {events : List MessageEvent} {t : Transcript} {s : Processor.State σ}
      (run : Sequential p first events t s) (host : Host σ) :
      Sequential p first events t { s with host }

lemma Sequential.roomy [Clocked σ] {p : Processor σ} {first s : Processor.State σ}
    {events : List MessageEvent} {t : Transcript} (run : Sequential p first events t s)
    {origins : List MessageId} (h : first.tracker.Roomy origins)
    (hmem : ∀ event ∈ events, ∀ origin ∈ p.origin? event, origin ∈ origins) :
    s.tracker.Roomy origins := by
  induction run with
  | start => exact h
  | process _ event ih =>
    rw [Processor.process_state]
    exact (p.observe_handled event _).roomy
      (ih fun e he => hmem e (List.mem_append_left _ he))
      (hmem event (List.mem_append_right _ (.head _)))
  | elsewhere _ _ ih => exact ih hmem

/-- The account of an original message is what its own events lead to. -/
theorem Sequential.account_eq [Clocked σ] {p : Processor σ} {first s : Processor.State σ}
    {events : List MessageEvent} {t : Transcript} (run : Sequential p first events t s)
    {origins : List MessageId} (hfirst : first.tracker.Roomy origins)
    (hmem : ∀ event ∈ events, ∀ origin ∈ p.origin? event, origin ∈ origins) {o : Oracle}
    (hex : o.Explains [] t) (k : MessageId) :
    account t s.tracker k =
      (p.only k events).foldl (o.handle p) (account [] first.tracker k) := by
  induction run with
  | start => rfl
  | @process events t s run event ih =>
    have hbefore : ∀ e ∈ events, ∀ origin ∈ p.origin? e, origin ∈ origins :=
      fun e he => hmem e (List.mem_append_left _ he)
    obtain ⟨hold, hnew⟩ := (o.explains_append [] t _).mp hex
    rw [List.nil_append] at hnew
    have hstep := (p.observe_handled event s).account_eq (run.roomy hfirst hbefore)
      (hmem event (List.mem_append_right _ (.head _))) hnew k
    rw [Processor.process_state, hstep, ih hbefore hold, Processor.only, Processor.only,
      List.filter_append, List.foldl_append]
    by_cases hk : p.origin? event = some k <;> simp [hk]
  | elsewhere _ _ ih => exact ih hmem hex

/-! ### Steady actions and memoryless drivers -/

/-- The answers of steady actions and of a driver that answers an operation the same whenever it is
asked. -/
def Oracle.memoryless (replies : IncomingMessage → List PendingReply)
    (outcome : (op : Operation) → Option op.Confirmation) : Oracle :=
  ⟨fun _ message => replies message, fun _ _ op => outcome op⟩

section
variable {replies : IncomingMessage → List PendingReply}
  {outcome : (op : Operation) → Option op.Confirmation}

lemma Oracle.memoryless_calls (before : Transcript) (origin : MessageId) (ops : List Operation) :
    (memoryless replies outcome).Explains before
      ((ops.map fun op => (⟨op, outcome op⟩ : Call)).map (.called origin)) := by
  induction ops generalizing before with
  | nil => trivial
  | cons op rest ih => exact ⟨rfl, ih _⟩

lemma Oracle.explains_evictions (o : Oracle) (before : Transcript) (tracker : ResponseTracker)
    (origin : MessageId) (responses : List Response) :
    o.Explains before (Processor.evictions tracker origin responses) := by
  unfold Processor.evictions
  cases (tracker.get origin).2.displaced? origin responses with
  | none => trivial
  | some gone => exact ⟨trivial, trivial⟩

/-- Steady actions and memoryless drivers answer locally. -/
theorem Sequential.explained [Clocked σ] {p : Processor σ} {first s : Processor.State σ}
    {events : List MessageEvent} {t : Transcript} (run : Sequential p first events t s)
    (hdriver : p.outbox.Memoryless outcome)
    (hactions : ∀ message host, (p.dialog.replies message host).1 = replies message) :
    (Oracle.memoryless replies outcome).Explains [] t := by
  induction run with
  | start => trivial
  | @process events t s run event ih =>
    rw [Oracle.explains_append]
    refine ⟨ih, ?_⟩
    have step := p.observe_handled event s
    generalize p.transcript event s = u at step ⊢
    generalize (p.observe event s).2.tracker = next at step
    cases step with
    | skipped => trivial
    | unrecorded => trivial
    | withdrawn host _ _ performed =>
      rw [Oracle.explains_append, performed, hdriver.performAll]
      exact ⟨Oracle.memoryless_calls _ _ _, Oracle.explains_evictions _ _ _ _ _⟩
    | @answered message calls asked later _ performed =>
      refine ⟨hactions message asked, ?_⟩
      rw [Oracle.explains_append, performed, hdriver.performAll]
      exact ⟨Oracle.memoryless_calls _ _ _, Oracle.explains_evictions _ _ _ _ _⟩
  | elsewhere _ _ ih => exact ih

end

lemma Sequential.processAll [Clocked σ] {p : Processor σ} {first s : Processor.State σ}
    {events : List MessageEvent} {t : Transcript} (run : Sequential p first events t s)
    (more : List MessageEvent) :
    Sequential p first (events ++ more) (t ++ (p.processAll more s).1) (p.processAll more s).2 := by
  induction more generalizing events t s with
  | nil => simpa [Processor.processAll] using run
  | cons event rest ih =>
    have hlater := ih (run.process event)
    rwa [List.append_assoc, List.append_assoc] at hlater

end ChatEngine
