import ChatEngine.Proofs.ActionIdentities

/-!
# Transcripts of processing

A transcript tells what happens while message events are processed: what the actions reply, which
calls the driver gets for which original message, and which original messages the tracker gives up
for lack of room. `Processor.observe` processes an event as `Processor.process` does and keeps the
transcript besides. `Handled` lists what one event can do to the transcript and to the tracker;
everything about runs is derived from it.
-/

namespace ChatEngine
open Outbox

variable {σ : Type}

/-- New messages and edits are what is shown to the actions. -/
lemma MessageKind.shown_iff (kind : MessageKind) :
    (kind = .new ∨ kind = .edit) ↔ kind ≠ .ignored ∧ kind ≠ .delete := by
  cases kind <;> simp

/-- What happens while message events are processed. -/
inductive Happening where
  /-- The actions were shown a message and gave these replies. -/
  | answered (message : IncomingMessage) (replies : List PendingReply)
  /-- The driver was called for an original message. -/
  | called (origin : MessageId) (call : Call)
  /-- The entry of an original message was given up to make room. -/
  | evicted (origin : MessageId)

/-- What happened, in order. -/
abbrev Transcript := List Happening

namespace Processor

/-- Records the replies of an origin; the transcript names the origin given up for it. -/
def observeRemember (origin : MessageId) (responses : List Response) : Step σ Transcript := do
  let displaced := (← get).tracker.displaced? origin responses
  remember origin responses
  return displaced.toList.map .evicted

def observeDelete (p : Processor σ) (origin : MessageId) : Step σ Transcript := do
  match ← remembered origin with
  | none =>
    onHost (Host.record .debug "deleted_message_without_responses" [("origin", .str origin.text)])
    return []
  | some prior =>
    let calls ← onHost (p.outbox.performAll origin (withdrawals prior))
    let evictions ← observeRemember origin (recorded calls)
    return calls.map (.called origin) ++ evictions

def observeIncoming [Clocked σ] (p : Processor σ) (message : IncomingMessage) :
    Step σ Transcript := do
  let replies ← onHost (p.dialog.replies message)
  let prior ← remembered message.originId
  let calls ← onHost (p.outbox.reconcileCalls message replies (prior.getD []))
  let evictions ← observeRemember message.originId (recorded calls)
  return .answered message replies :: calls.map (.called message.originId) ++ evictions

def observeMessage [Clocked σ] (p : Processor σ) (event : MessageEvent) :
    Step σ (Except Fault Unit × Transcript) := do
  match p.dialog.incoming event with
  | .error fault => return (.error fault, [])
  | .ok none => return (.ok (), [])
  | .ok (some message) =>
    if p.dialog.isOwn event message then
      onHost (Host.record .debug "own_message_ignored" [("origin", .str message.originId.text)])
      return (.ok (), [])
    else return (.ok (), ← p.observeIncoming message)

/-- Processes a message event and keeps the transcript. -/
def observe [Clocked σ] (p : Processor σ) (event : MessageEvent) :
    Step σ (Except Fault Unit × Transcript) := do
  if event.kind = .ignored then
    onHost (Host.record .debug "message_ignored"
      [("channel_id", Value.ofOption event.channel), ("subtype", Value.ofOption event.subtype)])
    return (.ok (), [])
  match event.validate with
  | .error refusal =>
    onHost (Host.record .warning "malformed_message_skipped"
      [("error", .str refusal.message), ("channel_id", Value.ofOption event.channel)])
    return (.ok (), [])
  | .ok () =>
    let labels := [("type", event.kind.text)]
    onHost (Host.count .messagesProcessed labels)
    timed labels do
      if event.kind = .delete then return (.ok (), ← p.observeDelete event.originId)
      else p.observeMessage event

def transcript [Clocked σ] (p : Processor σ) (event : MessageEvent) (s : State σ) : Transcript :=
  (p.observe event s).1.2

/-- Processes events one after the other: the transcript, and the state after the last one. -/
def processAll [Clocked σ] (p : Processor σ) : List MessageEvent → State σ → Transcript × State σ
  | [], s => ([], s)
  | event :: rest, s =>
    let later := p.processAll rest (p.process event s).2
    (p.transcript event s ++ later.1, later.2)

/-! ### Observing changes nothing -/

lemma onHost_apply {α : Type} (act : StateM (Host σ) α) (s : State σ) :
    onHost act s = ((act s.host).1, { s with host := (act s.host).2 }) := rfl

lemma remembered_apply (origin : MessageId) (s : State σ) :
    remembered origin s =
      (s.tracker.cache.peek? origin, { s with tracker := (s.tracker.get origin).2 }) := by
  rw [← ResponseTracker.get_fst]
  rfl

lemma remember_apply (origin : MessageId) (responses : List Response) (s : State σ) :
    remember origin responses s = ((), { s with tracker := s.tracker.put origin responses }) := rfl

lemma observeRemember_apply (origin : MessageId) (responses : List Response) (s : State σ) :
    observeRemember origin responses s =
      ((s.tracker.displaced? origin responses).toList.map .evicted,
        { s with tracker := s.tracker.put origin responses }) := rfl

lemma processDelete_apply (p : Processor σ) (origin : MessageId) (s : State σ) :
    p.processDelete origin s = ((), (p.observeDelete origin s).2) := by
  unfold processDelete observeDelete
  simp only [bind_apply, remembered_apply]
  cases s.tracker.cache.peek? origin with
  | none => rfl
  | some prior =>
    simp only [bind_apply, pure_apply, onHost_apply, withdrawAll_apply, remember_apply,
      observeRemember_apply]

section
variable [Clocked σ]

lemma processIncoming_apply (p : Processor σ) (message : IncomingMessage) (s : State σ) :
    p.processIncoming message s = ((), (p.observeIncoming message s).2) := by
  unfold processIncoming observeIncoming
  simp only [bind_apply, pure_apply, onHost_apply, remembered_apply, reconcile_eq, map_apply,
    remember_apply, observeRemember_apply]

lemma processMessage_apply (p : Processor σ) (event : MessageEvent) (s : State σ) :
    p.processMessage event s =
      ((p.observeMessage event s).1.1, (p.observeMessage event s).2) := by
  unfold processMessage observeMessage
  rcases p.dialog.incoming event with fault | (_ | message)
  · rfl
  · rfl
  · dsimp only
    by_cases hown : p.dialog.isOwn event message = true
    · simp only [hown, if_true]
      rfl
    · simp only [hown]
      simp only [Bool.false_eq_true, if_false, bind_apply, processIncoming_apply]
      rfl

lemma timed_apply {α : Type} (labels : List (String × String)) (act : Step σ α) (s : State σ) :
    timed labels act s =
      let start := Clocked.now s.host.world
      let done := act s
      (done.1, { done.2 with host := { done.2.host with
        metrics := done.2.host.metrics.observe .processing labels
          (Clocked.now done.2.host.world - start) } }) := rfl

/-- Observing an event gives the result and the state of processing it. -/
theorem process_apply (p : Processor σ) (event : MessageEvent) (s : State σ) :
    p.process event s = ((p.observe event s).1.1, (p.observe event s).2) := by
  unfold process observe
  by_cases hi : event.kind = .ignored
  · simp only [hi, if_true]
    rfl
  · simp only [hi, if_false]
    cases hv : event.validate with
    | error refusal => rfl
    | ok =>
      simp only [bind_apply, timed_apply]
      by_cases hd : event.kind = .delete
      · simp only [hd, if_true, bind_apply, processDelete_apply]
        rfl
      · simp only [hd, if_false, processMessage_apply]

lemma process_state (p : Processor σ) (event : MessageEvent) (s : State σ) :
    (p.process event s).2 = (p.observe event s).2 := by
  rw [process_apply]

end

/-! ### What one event can do -/

/-- What an event is cause for. -/
inductive Task where
  | skip
  /-- The replies to an original message are taken back. -/
  | withdraw (origin : MessageId)
  /-- A message is replied to. -/
  | answer (message : IncomingMessage)

/-- What processing an event comes to. -/
def task (p : Processor σ) (event : MessageEvent) : Task :=
  if event.kind = .ignored then .skip
  else match event.validate with
    | .error _ => .skip
    | .ok () =>
      if event.kind = .delete then .withdraw event.originId
      else match p.dialog.incoming event with
        | .ok (some message) => if p.dialog.isOwn event message then .skip else .answer message
        | _ => .skip

lemma incoming_cases {d : Dialog σ} {e : MessageEvent} {m : IncomingMessage}
    (h : d.incoming e = .ok (some m)) :
    e.kind ≠ .delete ∧ m.originId = e.originId ∧ m.userId = e.resolvedUser := by
  unfold Dialog.incoming at h
  split at h
  · cases h
  · next hkind =>
    split at h
    · cases h
    · rw [← Option.some.inj (Except.ok.inj h)]
      exact ⟨hkind, rfl, rfl⟩

lemma task_answer {p : Processor σ} {e : MessageEvent} {m : IncomingMessage}
    (h : p.task e = .answer m) :
    (e.kind = .new ∨ e.kind = .edit) ∧ p.dialog.incoming e = .ok (some m) := by
  unfold task at h
  by_cases hignored : e.kind = .ignored
  · rw [if_pos hignored] at h
    cases h
  rw [if_neg hignored] at h
  cases hvalid : e.validate with
  | error refusal =>
    rw [hvalid] at h
    cases h
  | ok =>
    rw [hvalid] at h
    by_cases hdelete : e.kind = .delete
    · rw [if_pos hdelete] at h
      cases h
    rw [if_neg hdelete] at h
    refine ⟨(MessageKind.shown_iff _).mpr ⟨hignored, hdelete⟩, ?_⟩
    rcases hview : p.dialog.incoming e with fault | (_ | message)
    · rw [hview] at h
      cases h
    · rw [hview] at h
      cases h
    · rw [hview] at h
      by_cases hown : p.dialog.isOwn e message = true
      · simp [hown] at h
      · simp only [hown] at h
        cases h
        rfl

/-- What happens to the tracker, and what is told of it, when responses are recorded. -/
def evictions (t : ResponseTracker) (origin : MessageId) (responses : List Response) :
    Transcript :=
  (((t.get origin).2.displaced? origin responses).toList).map .evicted

/-- The tracker after the entry of an origin was read and replaced. -/
def rerecorded (t : ResponseTracker) (origin : MessageId) (responses : List Response) :
    ResponseTracker :=
  (t.get origin).2.put origin responses

/-- Everything that processing an event can do: nothing; withdraw the responses on record; or show
a message to the actions and bring the responses on record in line with their replies. -/
inductive Handled [Clocked σ] (p : Processor σ) (event : MessageEvent) (t : ResponseTracker) :
    Transcript → ResponseTracker → Prop
  | skipped (task_eq : p.task event = .skip) : Handled p event t [] t
  | unrecorded {origin : MessageId} (task_eq : p.task event = .withdraw origin)
      (absent : t.cache.peek? origin = none) : Handled p event t [] t
  | withdrawn {origin : MessageId} {prior : List Response} {calls : List Call} (host : Host σ)
      (task_eq : p.task event = .withdraw origin) (present : t.cache.peek? origin = some prior)
      (performed : calls = (p.outbox.performAll origin (withdrawals prior) host).1) :
      Handled p event t (calls.map (.called origin) ++ evictions t origin (recorded calls))
        (rerecorded t origin (recorded calls))
  | answered {message : IncomingMessage} {calls : List Call} (asked later : Host σ)
      (task_eq : p.task event = .answer message)
      (performed : calls = (p.outbox.performAll message.originId
        (p.outbox.operations message (p.dialog.replies message asked).1
          (earlier (t.records message.originId))) later).1) :
      Handled p event t
        (.answered message (p.dialog.replies message asked).1 ::
          (calls.map (.called message.originId) ++
            evictions t message.originId (recorded calls)))
        (rerecorded t message.originId (recorded calls))

section
variable [Clocked σ]

lemma observeDelete_handled (p : Processor σ) (event : MessageEvent) (s : State σ)
    (htask : p.task event = .withdraw event.originId) :
    Handled p event s.tracker (p.observeDelete event.originId s).1
      (p.observeDelete event.originId s).2.tracker := by
  cases hp : s.tracker.cache.peek? event.originId with
  | none =>
    unfold observeDelete
    simp only [bind_apply, pure_apply, onHost_apply, remembered_apply, hp,
      ResponseTracker.get_of_peek?_none hp]
    exact .unrecorded htask hp
  | some prior =>
    unfold observeDelete
    simp only [bind_apply, pure_apply, onHost_apply, remembered_apply, observeRemember_apply, hp]
    exact .withdrawn s.host htask hp rfl

lemma observeIncoming_handled (p : Processor σ) (event : MessageEvent)
    (message : IncomingMessage) (s : State σ) (htask : p.task event = .answer message) :
    Handled p event s.tracker (p.observeIncoming message s).1
      (p.observeIncoming message s).2.tracker := by
  unfold observeIncoming
  simp only [bind_apply, pure_apply, onHost_apply, remembered_apply, observeRemember_apply]
  exact .answered s.host _ htask (reconcileCalls_fst _ _ _ _ _)

/-- Processing an event does what `Handled` says. -/
theorem observe_handled (p : Processor σ) (event : MessageEvent) (s : State σ) :
    Handled p event s.tracker (p.transcript event s) (p.observe event s).2.tracker := by
  unfold transcript observe
  by_cases hi : event.kind = .ignored
  · simp only [hi, if_true]
    exact .skipped (by simp [task, hi])
  · simp only [hi, if_false]
    cases hv : event.validate with
    | error refusal => exact .skipped (by simp [task, hi, hv])
    | ok =>
      let counted := (onHost (Host.count .messagesProcessed [("type", event.kind.text)]) s).2
      simp only [bind_apply, timed_apply]
      by_cases hd : event.kind = .delete
      · rw [if_pos hd]
        exact p.observeDelete_handled event counted (by simp [task, hv, hd])
      · rw [if_neg hd]
        unfold observeMessage
        cases hm : p.dialog.incoming event with
        | error fault => exact .skipped (by simp [task, hi, hv, hd, hm])
        | ok incoming =>
          cases incoming with
          | none => exact .skipped (by simp [task, hi, hv, hd, hm])
          | some message =>
            dsimp only
            by_cases hown : p.dialog.isOwn event message = true
            · rw [if_pos hown]
              exact .skipped (by simp [task, hi, hv, hd, hm, hown])
            · rw [if_neg hown]
              simp only [bind_apply, pure_apply]
              exact p.observeIncoming_handled event message counted
                (by simp [task, hi, hv, hd, hm, hown])

lemma Handled.sound {p : Processor σ} {event : MessageEvent} {u : Transcript}
    {tracker next : ResponseTracker} (step : Handled p event tracker u next)
    (h : tracker.Sound) : next.Sound := by
  cases step with
  | skipped => exact h
  | unrecorded => exact h
  | withdrawn => exact (h.get _).put _ _
  | answered => exact (h.get _).put _ _

end

end Processor

/-! ### Runs -/

/-- What processing events one after the other can reach from an empty tracker, with the transcript
of it. The bot's identity may become known or change between events, and so may the world. -/
inductive Reached [Clocked σ] (registry : PluginRegistry σ) (outbox : Outbox σ) (capacity : Int) :
    Transcript → Processor.State σ → Prop
  | start {tracker : ResponseTracker} (host : Host σ)
      (created : ResponseTracker.create? capacity = some tracker) :
      Reached registry outbox capacity [] ⟨tracker, host⟩
  | process {t : Transcript} {s : Processor.State σ}
      (reached : Reached registry outbox capacity t s) (identity : Option Identity)
      (event : MessageEvent) :
      Reached registry outbox capacity
        (t ++ (registry.processor outbox identity).transcript event s)
        ((registry.processor outbox identity).process event s).2
  | elsewhere {t : Transcript} {s : Processor.State σ}
      (reached : Reached registry outbox capacity t s) (host : Host σ) :
      Reached registry outbox capacity t { s with host }

lemma Reached.sound [Clocked σ] {registry : PluginRegistry σ} {outbox : Outbox σ}
    {capacity : Int} {t : Transcript} {s : Processor.State σ}
    (h : Reached registry outbox capacity t s) : s.tracker.Sound := by
  induction h with
  | start host created => exact ResponseTracker.create?_sound created
  | process _ identity event ih =>
    rw [Processor.process_state]
    exact (Processor.observe_handled _ event _).sound ih
  | elsewhere _ _ ih => exact ih

lemma Reached.processAll [Clocked σ] {registry : PluginRegistry σ} {outbox : Outbox σ}
    {capacity : Int} {t : Transcript} {s : Processor.State σ}
    (h : Reached registry outbox capacity t s) (identity : Option Identity)
    (events : List MessageEvent) :
    Reached registry outbox capacity
      (t ++ ((registry.processor outbox identity).processAll events s).1)
      ((registry.processor outbox identity).processAll events s).2 := by
  induction events generalizing t s with
  | nil => simpa [Processor.processAll] using h
  | cons event rest ih =>
    have hlater := ih (h.process identity event)
    rwa [List.append_assoc] at hlater

end ChatEngine
