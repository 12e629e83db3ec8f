import ChatEngine.Proofs.BlindActions

/-!
# Events that change nothing

The bot's own messages, deletions of messages that it did not reply to, ignored events and malformed
ones are idle: processing them leaves the world and the tracker as they are. Slipped into a stream
of events they make no difference to the others, whatever comes before and after. The events with
which the service tells of the bot's own posting, changing and deleting are idle, so the bot never
answers itself.
-/

namespace ChatEngine
open Outbox

variable {σ : Type}

/-! ### Idle events -/

/-- Whether somebody is the author of an event's message, by user id or bot id. -/
def MessageEvent.WrittenBy (e : MessageEvent) (i : Identity) : Prop :=
  e.resolvedUser = i.userId ∨ e.botId = i.userId

/-- Events that ask nothing of the bot with an identity and a tracker. -/
inductive Idle (i : Identity) (tracker : ResponseTracker) (e : MessageEvent) : Prop
  | own (shown : e.kind = .new ∨ e.kind = .edit) (author : e.WrittenBy i)
      (text : e.resolvedText ≠ none)
  | unrecorded (deletion : e.kind = .delete) (absent : tracker.contains e.originId = false)
  | ignored (kind : e.kind = .ignored)
  | malformed {refusal : MalformedEvent} (rejected : e.validate = .error refusal)

namespace Processor

lemma isOwn_of_writtenBy {d : Dialog σ} {i : Identity} (known : d.identity = some i)
    {e : MessageEvent} {m : IncomingMessage} (hm : d.incoming e = .ok (some m))
    (author : e.WrittenBy i) : d.isOwn e m = true := by
  have huser := (incoming_cases hm).2.2
  unfold Dialog.isOwn
  rw [known]
  simpa [huser, MessageEvent.WrittenBy] using author

lemma observeDelete_absent (p : Processor σ) {origin : MessageId} {s : State σ}
    (absent : s.tracker.contains origin = false) :
    (p.observeDelete origin s).1 = [] ∧ s.Alike (p.observeDelete origin s).2 := by
  have hnone : s.tracker.cache.peek? origin = none := by
    simpa [ResponseTracker.contains, Lru.contains] using absent
  unfold observeDelete
  simp only [bind_apply, pure_apply, onHost_apply, remembered_apply, hnone]
  exact ⟨trivial, (ResponseTracker.get_of_peek?_none hnone).symm, .recorded _ _ _ _⟩

variable [Clocked σ]

lemma observeMessage_own {p : Processor σ} {i : Identity} (known : p.dialog.identity = some i)
    {e : MessageEvent} (shown : e.kind = .new ∨ e.kind = .edit) (author : e.WrittenBy i)
    (text : e.resolvedText ≠ none) (s : State σ) :
    (p.observeMessage e s).1 = (.ok (), []) ∧ s.Alike (p.observeMessage e s).2 := by
  obtain ⟨-, hdelete⟩ := (MessageKind.shown_iff _).mp shown
  obtain ⟨text, htext⟩ := Option.ne_none_iff_exists'.mp text
  have hm : ∃ m, p.dialog.incoming e = .ok (some m) := by
    rw [Dialog.incoming, if_neg hdelete, htext]
    exact ⟨_, rfl⟩
  obtain ⟨m, hm⟩ := hm
  unfold observeMessage
  rw [hm]
  simp only [isOwn_of_writtenBy known hm author, if_true]
  exact ⟨rfl, rfl, .recorded _ _ _ _⟩

/-- Whether an event is processed without a fault, with nothing happening and nothing but the
metrics and the log changed. -/
def Ineffective (p : Processor σ) (s : State σ) (e : MessageEvent) : Prop :=
  (p.observe e s).1 = (.ok (), []) ∧ s.Alike (p.observe e s).2

lemma ineffective_of_ignored (p : Processor σ) {e : MessageEvent} (ignored : e.kind = .ignored)
    (s : State σ) : p.Ineffective s e := by
  unfold Ineffective observe
  rw [if_pos ignored]
  exact ⟨rfl, rfl, .recorded _ _ _ _⟩

lemma ineffective_of_malformed (p : Processor σ) {e : MessageEvent} {refusal : MalformedEvent}
    (rejected : e.validate = .error refusal) (s : State σ) : p.Ineffective s e := by
  by_cases hignored : e.kind = .ignored
  · exact p.ineffective_of_ignored hignored s
  · unfold Ineffective observe
    rw [if_neg hignored, rejected]
    exact ⟨rfl, rfl, .recorded _ _ _ _⟩

/-- Idle events have no effect on a bot with a known identity. -/
theorem ineffective_of_idle {p : Processor σ} {i : Identity}
    (known : p.dialog.identity = some i) {e : MessageEvent} {s : State σ}
    (idle : Idle i s.tracker e) : p.Ineffective s e := by
  by_cases hignored : e.kind = .ignored
  · exact p.ineffective_of_ignored hignored s
  cases hvalid : e.validate with
  | error refusal => exact p.ineffective_of_malformed hvalid s
  | ok =>
    let counted := (onHost (Host.count .messagesProcessed [("type", e.kind.text)]) s).2
    have hcounted : s.Alike counted := ⟨rfl, .counted _ _ _⟩
    unfold Ineffective observe
    rw [if_neg hignored, hvalid]
    simp only [bind_apply, timed_apply]
    cases idle with
    | own shown author text =>
      obtain ⟨-, hdelete⟩ := (MessageKind.shown_iff _).mp shown
      rw [if_neg hdelete]
      obtain ⟨hresult, halike⟩ := observeMessage_own known shown author text counted
      have hall := hcounted.trans halike
      exact ⟨hresult, hall.tracker, hall.host.world, hall.host.profiles⟩
    | unrecorded deletion absent =>
      rw [if_pos deletion]
      obtain ⟨hnothing, halike⟩ := p.observeDelete_absent (s := counted) absent
      have hall := hcounted.trans halike
      exact ⟨congrArg (Prod.mk _) hnothing, hall.tracker, hall.host.world, hall.host.profiles⟩
    | ignored kind => exact absurd kind hignored
    | malformed rejected =>
      rw [hvalid] at rejected
      cases rejected

/-! ### Events slipped in -/

/-- What comes of an event: how its processing ended, what happened, and the tracker afterwards. -/
structure Turn where
  event : MessageEvent
  result : Except Fault Unit
  transcript : Transcript
  tracker : ResponseTracker

def turn (p : Processor σ) (e : MessageEvent) (s : State σ) : Turn :=
  ⟨e, (p.process e s).1, p.transcript e s, (p.process e s).2.tracker⟩

/-- The turns of events that are processed one after the other. -/
def turns (p : Processor σ) : List MessageEvent → State σ → List Turn
  | [], _ => []
  | e :: rest, s => p.turn e s :: p.turns rest (p.process e s).2

/-- An event of a stream, and whether it was slipped in. -/
structure Arrival where
  event : MessageEvent
  extra : Bool

/-- The stream without what was slipped in. -/
def originals (arrivals : List Arrival) : List MessageEvent :=
  (arrivals.filter (!·.extra)).map (·.event)

/-- The turns of the original events, while those slipped in are processed in between. -/
def turnsAmong (p : Processor σ) : List Arrival → State σ → List Turn
  | [], _ => []
  | a :: rest, s =>
    let later := p.turnsAmong rest (p.process a.event s).2
    if a.extra then later else p.turn a.event s :: later

/-- Whether everything that was slipped in has a property when its turn comes. -/
def SlippedIn (p : Processor σ) (holds : State σ → MessageEvent → Prop) :
    List Arrival → State σ → Prop
  | [], _ => True
  | a :: rest, s =>
    (a.extra = true → holds s a.event) ∧ p.SlippedIn holds rest (p.process a.event s).2

lemma SlippedIn.mono {p : Processor σ} {holds holds' : State σ → MessageEvent → Prop}
    (hmono : ∀ s e, holds s e → holds' s e) {arrivals : List Arrival} {s : State σ}
    (h : p.SlippedIn holds arrivals s) : p.SlippedIn holds' arrivals s := by
  induction arrivals generalizing s with
  | nil => trivial
  | cons a rest ih => exact ⟨fun hextra => hmono _ _ (h.1 hextra), ih h.2⟩

lemma slippedIn_of_forall (p : Processor σ) {holds : State σ → MessageEvent → Prop}
    {arrivals : List Arrival}
    (h : ∀ a ∈ arrivals, a.extra = true → ∀ s, holds s a.event) (s : State σ) :
    p.SlippedIn holds arrivals s := by
  induction arrivals generalizing s with
  | nil => trivial
  | cons a rest ih =>
    have hrest := ih fun a' ha' => h a' (List.mem_cons_of_mem _ ha')
    exact ⟨fun hextra => h a List.mem_cons_self hextra s, hrest _⟩

/-- Turns of events between which nothing but the metrics and the log is changed. -/
inductive Undisturbed (p : Processor σ) : State σ → List MessageEvent → List Turn → Prop
  | done (s : State σ) : Undisturbed p s [] []
  | turn {s s' : State σ} {e : MessageEvent} {rest : List MessageEvent} {later : List Turn}
      (quiet : s.Alike s') (next : Undisturbed p (p.process e s').2 rest later) :
      Undisturbed p s (e :: rest) (p.turn e s' :: later)

lemma Undisturbed.of_alike {p : Processor σ} {s s' : State σ} {events : List MessageEvent}
    {later : List Turn} (h : Undisturbed p s events later) (quiet : s'.Alike s) :
    Undisturbed p s' events later := by
  cases h with
  | done => exact .done s'
  | turn quiet' next => exact .turn (quiet.trans quiet') next

lemma originals_extra {a : Arrival} (h : a.extra = true) (rest : List Arrival) :
    originals (a :: rest) = originals rest := by
  rw [originals, List.filter_cons_of_neg (by simp [h]), originals]

lemma originals_original {a : Arrival} (h : a.extra = false) (rest : List Arrival) :
    originals (a :: rest) = a.event :: originals rest := by
  rw [originals, List.filter_cons_of_pos (by simp [h]), List.map_cons, originals]

/-- Events without effect that are slipped in do not disturb the original ones. -/
theorem undisturbed {p : Processor σ} {arrivals : List Arrival} {s : State σ}
    (slipped : p.SlippedIn p.Ineffective arrivals s) :
    Undisturbed p s (originals arrivals) (p.turnsAmong arrivals s) := by
  induction arrivals generalizing s with
  | nil => exact .done s
  | cons a rest ih =>
    obtain ⟨hfirst, hrest⟩ := slipped
    have hlater := ih hrest
    unfold turnsAmong
    cases hextra : a.extra with
    | true =>
      rw [originals_extra hextra]
      obtain ⟨-, quiet⟩ := hfirst hextra
      rw [← process_state] at quiet
      exact hlater.of_alike quiet
    | false =>
      rw [originals_original hextra]
      exact .turn (.refl s) hlater

lemma Blind.process {p : Processor σ} (hp : p.Blind) (e : MessageEvent) :
    Respects State.Alike (p.process e) := by
  intro s s' h
  obtain ⟨hresult, hstate⟩ := hp.observe e s s' h
  rw [process_apply, process_apply, hresult]
  exact ⟨rfl, hstate⟩

lemma Blind.turn_eq {p : Processor σ} (hp : p.Blind) (e : MessageEvent) {s s' : State σ}
    (h : s.Alike s') : p.turn e s = p.turn e s' := by
  obtain ⟨hobserved, -⟩ := hp.observe e s s' h
  obtain ⟨hresult, hstate⟩ := hp.process e s s' h
  rw [turn, turn, hresult, hstate.tracker, transcript, transcript, hobserved]

/-- To blind actions and a blind driver, changes of the metrics and the log are none. -/
theorem Blind.turns_eq {p : Processor σ} (hp : p.Blind) {s s' : State σ}
    {events : List MessageEvent} {among : List Turn} (h : Undisturbed p s events among)
    (alike : s.Alike s') : among = p.turns events s' := by
  induction h generalizing s' with
  | done => rfl
  | @turn s t e rest later quiet next ih =>
    have halike := quiet.symm.trans alike
    rw [turns, hp.turn_eq e halike, ih (hp.process e _ _ halike).2]

end Processor

end ChatEngine
