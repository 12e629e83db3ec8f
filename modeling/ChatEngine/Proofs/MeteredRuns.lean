import ChatEngine.Proofs.MeteredCalls
import ChatEngine.Proofs.Transcript
import ChatEngine.Simulation.Workspace

/-!
# Metered runs

Runs of a processor over a metered driver. A history lists what a run was about: the events, the
answers that the actions gave, and the calls that the processor made for replies. The metrics
account for every one of them and for every call that the driver received through the meter, whatever
the plugins do besides and whichever calls fail (`metrics_account_for_every_call`). A sender that is
the driver itself passes the meter by, and a plugin that writes into the metrics puts them out.
-/

namespace ChatEngine
open Outbox

variable {σ : Type}

/-! ### Histories -/

/-- What a run of a processor was about. -/
structure History where
  events : List MessageEvent := []
  /-- The answers that actions gave, with the names of their plugins. -/
  answers : List (String × Answer) := []
  /-- The calls that the processor made for replies. -/
  calls : List Call := []

/-- Whether an event is neither ignored nor refused. -/
def MessageEvent.isProcessed (e : MessageEvent) : Bool :=
  decide (e.kind ≠ .ignored) && e.validate.isOk

lemma MessageEvent.isProcessed_iff {e : MessageEvent} :
    e.isProcessed = true ↔ e.kind ≠ .ignored ∧ e.validate = .ok () := by
  unfold isProcessed
  cases e.validate <;> simp [Except.isOk, Except.toBool]

namespace History

instance : Append History where
  append h k := ⟨h.events ++ k.events, h.answers ++ k.answers, h.calls ++ k.calls⟩

/-- The kinds of the events that were processed. -/
def processed (h : History) : List MessageKind := (h.events.filter (·.isProcessed)).map (·.kind)

/-- The plugins whose actions gave answers that are not empty. -/
def answering (h : History) : List String := (h.answers.filter (!·.2.isEmpty)).map (·.1)

/-- The operations of the calls that failed. -/
def failing (h : History) : List String :=
  (h.calls.filter (!·.succeeded)).map (·.operation.name)

/-- What the engine counts of a history. -/
def notes (h : History) : List Noted :=
  h.processed.map .processed ++ h.answering.map .answered ++ h.failing.map .failed

lemma notes_append (h k : History) : (h.notes ++ k.notes).Perm (h ++ k).notes := by
  rw [List.perm_iff_count]
  intro note
  change _ = List.count note (History.notes ⟨h.events ++ k.events, h.answers ++ k.answers,
    h.calls ++ k.calls⟩)
  simp only [notes, processed, answering, failing, List.filter_append, List.map_append,
    List.count_append]
  omega

lemma count_map_apart {α : Type} {f : α → Noted} {note : Noted} (apart : ∀ a, f a ≠ note)
    (l : List α) : (l.map f).count note = 0 := by
  rw [List.count_eq_zero, List.mem_map]
  rintro ⟨a, -, ha⟩
  exact apart a ha

lemma count_processed (h : History) (kind : MessageKind) :
    h.notes.count (.processed kind) = h.processed.count kind := by
  rw [notes, List.count_append, List.count_append,
    List.count_map_of_injective _ _ fun _ _ => Noted.processed.inj, count_map_apart nofun,
    count_map_apart nofun]
  rfl

lemma count_answered (h : History) (plugin : String) :
    h.notes.count (.answered plugin) = h.answering.count plugin := by
  rw [notes, List.count_append, List.count_append,
    List.count_map_of_injective _ _ fun _ _ => Noted.answered.inj, count_map_apart nofun,
    count_map_apart nofun]
  exact Nat.zero_add _

lemma count_failed (h : History) (operation : String) :
    h.notes.count (.failed operation) = h.failing.count operation := by
  rw [notes, List.count_append, List.count_append,
    List.count_map_of_injective _ _ fun _ _ => Noted.failed.inj, count_map_apart nofun,
    count_map_apart nofun]
  exact Nat.zero_add _

end History

open Counter in
/-- Metrics that account for a history and for calls that the driver received. -/
structure Metrics.AccountFor (m : Metrics) (received : List Receipt) (h : History) : Prop where
  calls : ∀ method : Method, Shows (m.value .serviceCalls method.labels)
    ((received.map (·.method)).count method)
  errors : ∀ method : Method, Shows (m.value .serviceErrors method.labels)
    (((received.filter (·.failed)).map (·.method)).count method)
  durations : ∀ method : Method, (m.observed .service method.labels).length =
    (received.map (·.method)).count method
  failing : ∀ operation, Shows (m.value .outboundErrors [("operation", operation)])
    (h.failing.count operation)
  processed : ∀ kind : MessageKind, Shows (m.value .messagesProcessed [("type", kind.text)])
    (h.processed.count kind)
  answering : ∀ plugin, Shows (m.value .pluginAnswers [("plugin", plugin)])
    (h.answering.count plugin)

lemma Ledger.accountFor {h : History} {m : Metrics} {received : List Receipt}
    (ledger : Ledger h.notes m received) : m.AccountFor received h where
  calls := ledger.calls
  errors := ledger.errors
  durations := ledger.durations
  failing operation := h.count_failed operation ▸ ledger.noted (.failed operation)
  processed kind := h.count_processed kind ▸ ledger.noted (.processed kind)
  answering plugin := h.count_answered plugin ▸ ledger.noted (.answered plugin)

/-! ### What one event adds to the history -/

/-- What an action answers to a message on a host, if it answers. -/
def RegisteredAction.produced? (r : RegisteredAction σ) (message : IncomingMessage)
    (h : Host σ) : Option Answer :=
  (r.prepare message).bind fun view => ((r.evaluate view).attempt h).1.toOption.join

def Happening.call? : Happening → Option Call
  | .called _ call => some call
  | _ => none

section
variable [Clocked σ]

/-- An action that answers by proper conduct. -/
def RegisteredAction.Proper (d : ChatDriver σ) (r : RegisteredAction (Watched σ)) : Prop :=
  ∀ view, Conduct d (r.action.answer r.plugin.services view)

/-- The answers that actions give when they are tried in order. -/
def Dialog.produced (message : IncomingMessage) :
    List (RegisteredAction σ) → Host σ → List (String × Answer)
  | [], _ => []
  | r :: rest, h =>
    (r.produced? message h).toList.map (fun answer => (r.plugin.name, answer)) ++
      produced message rest (r.tryAnswer message h).2

namespace Processor

/-- The host on which an event is processed once it is counted. -/
def counted (event : MessageEvent) (h : Host σ) : Host σ :=
  (Host.count .messagesProcessed [("type", event.kind.text)] h).2

/-- The answers that actions give to an event that is processed on a host. -/
def answers (p : Processor σ) (event : MessageEvent) (h : Host σ) : List (String × Answer) :=
  match p.task event with
  | .answer message => Dialog.produced message (p.dialog.candidates message) h
  | _ => []

/-- What processing an event adds to the history. -/
def history (p : Processor σ) (event : MessageEvent) (s : State σ) : History where
  events := [event]
  answers := p.answers event (counted event s.host)
  calls := (p.transcript event s).filterMap Happening.call?

end Processor

/-! ### One event -/

variable {d : ChatDriver σ} {notes : List Noted}

def noteAnswers (answers : List (String × Answer)) : List Noted :=
  ((answers.filter (!·.2.isEmpty)).map (·.1)).map .answered

def noteCalls (calls : List Call) : List Noted :=
  ((calls.filter (!·.succeeded)).map (·.operation.name)).map .failed

lemma noteAnswers_append (first last : List (String × Answer)) :
    noteAnswers (first ++ last) = noteAnswers first ++ noteAnswers last := by
  simp only [noteAnswers, List.filter_append, List.map_append]

lemma noteCalls_append (first last : List Call) :
    noteCalls (first ++ last) = noteCalls first ++ noteCalls last := by
  simp only [noteCalls, List.filter_append, List.map_append]

namespace Booked

variable {o : Outbox (Watched σ)} {h : Host (Watched σ)}

lemma perform (booked : Booked notes h) (metered : o.driver = d.audited) (origin : MessageId)
    (op : Operation) :
    Booked (notes ++ noteCalls [(o.perform origin op h).1]) (o.perform origin op h).2 := by
  have hrequest : Conduct d (o.request op) := by
    cases op <;> unfold request <;> rw [metered]
    · exact .send _
    · exact .whisper _
    · exact .update _ _ _
    · exact .delete _
  have hbooked := booked.conduct hrequest
  rw [perform_apply]
  generalize (o.request op).attempt h = done at hbooked ⊢
  obtain ⟨fault | confirmation, after⟩ := done
  · exact Ledger.note hbooked (.failed op.name)
  · exact hbooked.unnoted

lemma performAll (booked : Booked notes h) (metered : o.driver = d.audited) (origin : MessageId)
    (ops : List Operation) :
    Booked (notes ++ noteCalls (o.performAll origin ops h).1) (o.performAll origin ops h).2 := by
  induction ops generalizing notes h with
  | nil => exact booked.unnoted
  | cons op rest ih =>
    have hrest := ih (booked.perform metered origin op)
    rw [List.append_assoc, ← noteCalls_append] at hrest
    exact hrest

lemma reconcileCalls (booked : Booked notes h) (metered : o.driver = d.audited)
    (message : IncomingMessage) (replies : List PendingReply) (prior : List Response) :
    Booked (notes ++ noteCalls (o.reconcileCalls message replies prior h).1)
      (o.reconcileCalls message replies prior h).2 := by
  have hbooked := booked.performAll metered message.originId
    (o.operations message replies (earlier prior))
  unfold Outbox.reconcileCalls
  rw [bind_apply]
  dsimp only
  split
  · exact hbooked
  · exact hbooked

lemma tryAnswer (booked : Booked notes h) {r : RegisteredAction (Watched σ)}
    (proper : r.Proper d) (message : IncomingMessage) :
    Booked (notes ++ noteAnswers
        ((r.produced? message h).toList.map fun answer => (r.plugin.name, answer)))
      (r.tryAnswer message h).2 := by
  have hevaluate (view : IncomingMessage) : Conduct d (r.evaluate view) := by
    unfold RegisteredAction.evaluate
    rcases r.action.isMatch view with fault | (_ | _)
    · exact .fail fault
    · exact .aside (fun _ => rfl) fun _ => rfl
    · exact proper view
  unfold RegisteredAction.tryAnswer RegisteredAction.produced?
  cases r.prepare message with
  | none => exact booked.unnoted
  | some view =>
    have hbooked := booked.conduct (hevaluate view)
    rw [Option.bind_some]
    have hdone : ∃ result after, (r.evaluate view).attempt h = (result, after) := ⟨_, _, rfl⟩
    obtain ⟨result, after, hdone⟩ := hdone
    rw [hdone] at hbooked
    have hid : HistogramId.pluginProcessing ≠ .service := nofun
    have htimed (seconds : Float) := Ledger.observe hbooked hid [("plugin", r.plugin.name)] seconds
    simp only [bind_apply, get_apply, pure_apply, Host.timed, hdone]
    -- A fault, no answer and an empty answer leave nothing to note.
    rcases result with fault | (_ | answer)
    · exact unnoted (htimed _)
    · exact unnoted (htimed _)
    · have hnotes : noteAnswers [(r.plugin.name, answer)] =
          if answer.isEmpty then [] else [.answered r.plugin.name] := by
        cases hempty : answer.isEmpty <;> simp [noteAnswers, hempty]
      change Booked (notes ++ noteAnswers [(r.plugin.name, answer)]) _
      simp only [hnotes, pure_apply]
      split
      · exact unnoted (htimed _)
      · exact (htimed _).note (.answered r.plugin.name)

lemma gather (booked : Booked notes h) {actions : List (RegisteredAction (Watched σ))}
    (proper : ∀ r ∈ actions, r.Proper d) (message : IncomingMessage) :
    Booked (notes ++ noteAnswers (Dialog.produced message actions h))
      (Dialog.gather message actions h).2 := by
  induction actions generalizing notes h with
  | nil => exact booked.unnoted
  | cons r rest ih =>
    have hfirst := booked.tryAnswer (proper r List.mem_cons_self) message
    have hrest := ih hfirst fun q hq => proper q (List.mem_cons_of_mem _ hq)
    rw [List.append_assoc, ← noteAnswers_append] at hrest
    unfold Dialog.gather
    simp only [bind_apply]
    cases (r.tryAnswer message h).1 <;> exact hrest

lemma replies (booked : Booked notes h) {dialog : Dialog (Watched σ)}
    (proper : ∀ r ∈ dialog.commands ++ dialog.hearActions, r.Proper d) (message : IncomingMessage) :
    Booked (notes ++ noteAnswers (Dialog.produced message (dialog.candidates message) h))
      (dialog.replies message h).2 := by
  have hcandidates : ∀ r ∈ dialog.candidates message,
      r ∈ dialog.commands ++ dialog.hearActions := by
    unfold Dialog.candidates
    split
    · exact fun r hr => List.mem_append_left _ hr
    · exact fun r hr => List.mem_append_right _ hr
  have hbooked := booked.gather (fun r hr => proper r (hcandidates r hr)) message
  unfold Dialog.replies
  rw [bind_apply]
  split <;> exact hbooked

end Booked

namespace Processor

variable {p : Processor (Watched σ)} {s : State (Watched σ)}

lemma calls_of_transcript (origin : MessageId) (calls : List Call) (evicted : List MessageId) :
    (calls.map (Happening.called origin) ++ evicted.map Happening.evicted).filterMap
      Happening.call? = calls := by
  rw [List.filterMap_append, List.filterMap_map, List.filterMap_map]
  have hcalls : Happening.call? ∘ Happening.called origin = some := rfl
  have hevicted : Happening.call? ∘ Happening.evicted = fun _ => none := rfl
  rw [hcalls, hevicted, List.filterMap_some, List.filterMap_none, List.append_nil]

lemma booked_observeDelete (booked : Booked notes s.host) (metered : p.outbox.driver = d.audited)
    (origin : MessageId) :
    Booked (notes ++ noteCalls ((p.observeDelete origin s).1.filterMap Happening.call?))
      (p.observeDelete origin s).2.host := by
  unfold observeDelete
  simp only [bind_apply, remembered_apply]
  cases s.tracker.cache.peek? origin with
  | none => exact booked.unnoted
  | some prior =>
    simp only [bind_apply, pure_apply, onHost_apply, observeRemember_apply, calls_of_transcript]
    exact booked.performAll metered origin _

lemma booked_observeIncoming (booked : Booked notes s.host)
    (metered : p.outbox.driver = d.audited)
    (proper : ∀ r ∈ p.dialog.commands ++ p.dialog.hearActions, r.Proper d)
    (message : IncomingMessage) :
    Booked (notes ++ noteAnswers (Dialog.produced message (p.dialog.candidates message) s.host) ++
        noteCalls ((p.observeIncoming message s).1.filterMap Happening.call?))
      (p.observeIncoming message s).2.host := by
  have hreplied := booked.replies proper message
  unfold observeIncoming
  simp only [bind_apply, pure_apply, onHost_apply, remembered_apply, observeRemember_apply]
  rw [List.cons_append, List.filterMap_cons_none rfl, calls_of_transcript]
  exact hreplied.reconcileCalls metered _ _ _

/-- What is done for an event once it is counted: replies to it are withdrawn, or it is shown to
the actions. -/
def body (p : Processor σ) (event : MessageEvent) : Step σ (Except Fault Unit × Transcript) := do
  if event.kind = .delete then return (.ok (), ← p.observeDelete event.originId)
  else p.observeMessage event

lemma observe_of_processed {event : MessageEvent} (h : event.isProcessed = true)
    (p : Processor (Watched σ)) (s : State (Watched σ)) :
    p.observe event s =
      timed [("type", event.kind.text)] (p.body event) { s with host := counted event s.host } := by
  obtain ⟨hi, hv⟩ := MessageEvent.isProcessed_iff.mp h
  unfold observe
  rw [if_neg hi, hv]
  rfl

/-- An event that is not processed is logged. -/
lemma observe_of_unprocessed {event : MessageEvent} (h : event.isProcessed = false)
    (p : Processor (Watched σ)) (s : State (Watched σ)) :
    p.task event = .skip ∧ ∃ level name fields, p.observe event s =
      ((.ok (), []), { s with host := (Host.record level name fields s.host).2 }) := by
  unfold task observe
  by_cases hi : event.kind = .ignored
  · rw [if_pos hi, if_pos hi]
    exact ⟨rfl, _, _, _, rfl⟩
  · rw [if_neg hi, if_neg hi]
    cases hv : event.validate with
    | error refusal => exact ⟨rfl, _, _, _, rfl⟩
    | ok => exact absurd (MessageEvent.isProcessed_iff.mpr ⟨hi, hv⟩) (by simp [h])

lemma booked_body (booked : Booked notes s.host) (metered : p.outbox.driver = d.audited)
    (proper : ∀ r ∈ p.dialog.commands ++ p.dialog.hearActions, r.Proper d) {event : MessageEvent}
    (h : event.isProcessed = true) :
    Booked (notes ++ noteAnswers (p.answers event s.host) ++
        noteCalls ((p.body event s).1.2.filterMap Happening.call?)) (p.body event s).2.host := by
  obtain ⟨hi, hv⟩ := MessageEvent.isProcessed_iff.mp h
  have hnone (hanswers : p.answers event s.host = []) :
      notes ++ noteAnswers (p.answers event s.host) = notes := by
    rw [hanswers]
    exact List.append_nil notes
  have hskipped (hanswers : p.answers event s.host = []) :
      Booked (notes ++ noteAnswers (p.answers event s.host) ++ noteCalls []) s.host := by
    rw [hnone hanswers]
    exact booked.unnoted
  unfold body
  by_cases hd : event.kind = .delete
  · rw [if_pos hd, hnone (by simp [answers, task, hv, hd])]
    exact booked_observeDelete booked metered event.originId
  rw [if_neg hd]
  unfold observeMessage
  -- An event without text ends in a fault, and like the bot's own messages it is shown to nobody.
  rcases hm : p.dialog.incoming event with fault | (_ | message)
  · exact hskipped (by simp [answers, task, hi, hv, hd, hm])
  · exact hskipped (by simp [answers, task, hi, hv, hd, hm])
  · dsimp only
    by_cases hown : p.dialog.isOwn event message = true
    · rw [if_pos hown]
      exact hskipped (by simp [answers, task, hi, hv, hd, hm, hown])
    · have hanswers : p.answers event s.host =
          Dialog.produced message (p.dialog.candidates message) s.host := by
        simp [answers, task, hi, hv, hd, hm, hown]
      rw [if_neg hown, hanswers]
      exact booked_observeIncoming booked metered proper message

lemma history_notes (p : Processor (Watched σ)) (event : MessageEvent) (s : State (Watched σ)) :
    (p.history event s).notes =
      (if event.isProcessed then [.processed event.kind] else []) ++
        noteAnswers (p.answers event (counted event s.host)) ++
        noteCalls ((p.transcript event s).filterMap Happening.call?) := by
  have hprocessed : (p.history event s).processed.map Noted.processed =
      if event.isProcessed then [.processed event.kind] else [] := by
    cases he : event.isProcessed <;> simp [History.processed, history, he]
  rw [← hprocessed]
  rfl

/-- Processing an event, the metrics stay in agreement. -/
theorem booked_observe (booked : Booked notes s.host) (metered : p.outbox.driver = d.audited)
    (proper : ∀ r ∈ p.dialog.commands ++ p.dialog.hearActions, r.Proper d) (event : MessageEvent) :
    Booked (notes ++ (p.history event s).notes) (p.observe event s).2.host := by
  rw [history_notes, transcript]
  cases h : event.isProcessed with
  | false =>
    obtain ⟨htask, level, name, fields, hobserved⟩ := observe_of_unprocessed h p s
    rw [hobserved, answers, htask]
    exact booked.unnoted
  | true =>
    have hcounted : Booked (notes ++ [.processed event.kind]) (counted event s.host) :=
      Ledger.note booked (.processed event.kind)
    -- The duration of processing goes into a histogram of its own, whatever the event ends with.
    let started : State (Watched σ) := { s with host := counted event s.host }
    have hbody := booked_body (s := started) hcounted metered proper h
    have hid : HistogramId.processing ≠ .service := nofun
    rw [observe_of_processed h, timed_apply, if_pos rfl, ← List.append_assoc, ← List.append_assoc]
    exact Ledger.observe hbody hid _ _

end Processor

/-! ### Runs -/

/-- The runs of a processor over a metered driver, from metrics that have counted nothing: events
are processed, and in between plugins do what they do on their own. What the bot is known as may
change between events. -/
inductive MeteredRun (d : ChatDriver σ) (registry : PluginRegistry (Watched σ))
    (defaults : ReplyDefaults) : History → Processor.State (Watched σ) → Prop
  | start (tracker : ResponseTracker) (world : σ) (log : Log)
      (profiles : Option (Lru String UserProfile)) (startedAt : Float) :
      MeteredRun d registry defaults {}
        ⟨tracker, { world := { world }, metrics := { startedAt }, log, profiles }⟩
  | process {history : History} {s : Processor.State (Watched σ)}
      (run : MeteredRun d registry defaults history s) (identity : Option Identity)
      (event : MessageEvent) :
      MeteredRun d registry defaults
        (history ++ (registry.processor ⟨d.audited, defaults⟩ identity).history event s)
        ((registry.processor ⟨d.audited, defaults⟩ identity).process event s).2
  | between {history : History} {s : Processor.State (Watched σ)}
      (run : MeteredRun d registry defaults history s) {act : Effect (Host (Watched σ)) Unit}
      (conduct : Conduct d act) :
      MeteredRun d registry defaults history { s with host := (act.attempt s.host).2 }

/-- Processing an event, a bot in surroundings where the driver is watched goes on with a metered
run. -/
lemma MeteredRun.bot {b : Bot (Watched σ)} (watches : b.given.Watches d)
    {history : History} {s : Processor.State (Watched σ)}
    (run : MeteredRun d b.registry b.processor.outbox.defaults history s) (event : MessageEvent) :
    MeteredRun d b.registry b.processor.outbox.defaults
      (history ++ b.processor.history event s) (b.processor.process event s).2 := by
  have haudited : b.processor =
      b.registry.processor ⟨d.audited, b.processor.outbox.defaults⟩ b.identity := by
    unfold Bot.processor Bot.driver
    rw [watches.driver]
    rfl
  have hnext := run.process b.identity event
  rwa [← haudited] at hnext

lemma Ledger.start (startedAt : Float) : Ledger [] { startedAt } [] where
  calls _ := Counter.shows_iff.mpr rfl
  errors _ := Counter.shows_iff.mpr rfl
  durations _ := rfl
  noted note := by cases note <;> exact Counter.shows_iff.mpr rfl

lemma MeteredRun.booked {registry : PluginRegistry (Watched σ)} {defaults : ReplyDefaults}
    (proper : ∀ r ∈ registry.commands ++ registry.hearActions, r.Proper d)
    {history : History} {s : Processor.State (Watched σ)}
    (run : MeteredRun d registry defaults history s) : Booked history.notes s.host := by
  induction run with
  | start _ _ _ _ startedAt => exact Ledger.start startedAt
  | process _ identity event ih =>
    rw [Processor.process_state]
    exact (Processor.booked_observe ih rfl proper event).perm (History.notes_append _ _)
  | between _ conduct ih => exact ih.conduct conduct

/-- The metrics account for every call that the driver received through the meter, every failed call
that the processor made, every event that was processed and every answer that is not empty. Every
call through the meter is passed on to the driver once, with its result, and so is every other call
of the driver, which the metrics do not show. -/
theorem metrics_account_for_every_call (d : ChatDriver σ)
    {registry : PluginRegistry (Watched σ)} {defaults : ReplyDefaults}
    (proper : ∀ r ∈ registry.commands ++ registry.hearActions, r.Proper d)
    {history : History} {s : Processor.State (Watched σ)}
    (run : MeteredRun d registry defaults history s) :
    s.host.metrics.AccountFor (Receipt.counted s.host.world.received) history ∧
      d.Relayed d.audited ∧ d.Bypassed (d.watched false).outside :=
  ⟨(run.booked proper).accountFor, d.relayed, d.bypassed⟩

end

/-! ### Plugins that also talk, or count, on their own -/

namespace Parrot
open Simulation

/-- Squawks at once, whether or not that gets through, and then says hello. -/
def squawk : Action (Watched Workspace) where
  answer := fun services m => do
    let _ ← Effect.lift (services.say "squawk" m.channel).attempt
    return some { text := "hello" }

/-- Counts a message that is never sent. -/
def boast : Action (Watched Workspace) where
  answer := fun _ _ => do
    Effect.lift (Host.count .serviceCalls Method.send.labels)
    return none

/-- A bot in a workspace where nobody can say hello. What its plugin says on its own goes to the
driver, past the meter of the bot. -/
def bare (action : Action (Watched Workspace)) : Bot (Watched Workspace) where
  name := none
  config := { token := "t" }
  given := {
    driver := Workspace.driver.watched true
    sender := some (Workspace.driver.watched false).sender }
  registry := {
    botName := "bot", version := "1", plugins := [{ name := "parrot", hearActions := [action] }] }
  tracker := ⟨{ capacity := 1 }⟩
  host := { world := { world := { failing := ["send:hello"] } } }

/-- The bot once its plugin has its services. -/
def bot (action : Action (Watched Workspace)) : Bot (Watched Workspace) :=
  { bare action with registry := (bare action).registry.close.inject (bare action).services }

lemma bare_watches (action : Action (Watched Workspace)) :
    (bare action).given.Watches Workspace.driver where
  driver := rfl
  users := nofun
  reactor := nofun
  uploader := nofun
  sender send hsend text channel := by
    cases hsend
    exact Watched.receive_bypasses .send _

lemma squawk_proper (p : Plugin (Watched Workspace)) (m : IncomingMessage) :
    Conduct Workspace.driver (squawk.answer ((bare squawk).services p) m) := by
  apply Conduct.bind
  · exact .attempt ((Bot.services_proper (bare_watches squawk) p).say _ _)
  · exact fun _ => .aside (fun _ => rfl) fun _ => rfl

lemma registry_proper : ∀ r ∈ (bot squawk).registry.commands ++ (bot squawk).registry.hearActions,
    r.Proper Workspace.driver := by
  have hcommands : (bot squawk).registry.commands = (Help.plugin "bot" "1" "Local"
      [{ name := "parrot", hearActions := [squawk] }]).registeredCommands := rfl
  have hhear : (bot squawk).registry.hearActions.map
      (fun r => r.action.answer r.plugin.services) = [squawk.answer ((bare squawk).services
        { name := "parrot", hearActions := [squawk] })] := rfl
  intro r hr view
  rcases List.mem_append.mp hr with hr | hr
  · rw [hcommands] at hr
    rw [List.mem_singleton.mp hr]
    exact .aside (fun _ => rfl) fun _ => rfl
  · have hanswer := List.mem_map_of_mem (f := fun r => r.action.answer r.plugin.services) hr
    rw [hhear, List.mem_singleton] at hanswer
    rw [hanswer]
    exact squawk_proper _ _

def start : Processor.State (Watched Workspace) := ⟨⟨{ capacity := 1 }⟩, (bare squawk).host⟩

def hi : MessageEvent :=
  { channel := some "C", timestamp := some "1", userId := some "U", text := some "hi" }

/-- Saying hi to a parrot that just started is a run. -/
lemma said_hi (action : Action (Watched Workspace)) :
    MeteredRun Workspace.driver (bot action).registry (bot action).processor.outbox.defaults
      ({} ++ (bot action).processor.history hi start) ((bot action).processor.process hi start).2 :=
  MeteredRun.bot (b := bot action) (bare_watches action)
    (.start start.tracker start.host.world.world [] none 0.0) hi

lemma squawk_received : ((bot squawk).processor.process hi start).2.host.world.received =
    [⟨.send, false, false⟩, ⟨.send, true, true⟩] := by
  decide +kernel

/-- Of the two messages that are sent only the reply is accounted for, which fails. -/
theorem parrot_is_accounted_for :
    let history := (bot squawk).processor.history hi start
    let done := ((bot squawk).processor.process hi start).2
    history.processed = [.new] ∧ history.answering = ["parrot"] ∧ history.failing = ["send"] ∧
      done.host.world.received = [⟨.send, false, false⟩, ⟨.send, true, true⟩] ∧
      done.host.metrics.AccountFor [⟨.send, true, true⟩] history := by
  intro history done
  have haccount := (metrics_account_for_every_call Workspace.driver registry_proper
    (said_hi squawk)).1
  rw [squawk_received] at haccount
  exact ⟨by decide +kernel, by decide +kernel, by decide +kernel, squawk_received, haccount⟩

lemma boast_counted : ((bot boast).processor.process hi start).2.host.metrics.value .serviceCalls
    Method.send.labels = Counter.reading 1 := by
  have hcounter : ((bot boast).processor.process hi start).2.host.metrics.counter .serviceCalls =
      (({ startedAt := 0.0 } : Metrics).count .serviceCalls Method.send.labels).counter
        .serviceCalls := rfl
  unfold Metrics.value
  rw [hcounter]
  exact Metrics.value_count_self

/-- The driver receives a squawk that the metrics do not show, and it does not receive a message
that the plugin boasts of. -/
theorem squawks_and_boasts_are_miscounted :
    let squawked := (bot squawk).processor.process hi start
    let boasted := (bot boast).processor.process hi start
    squawked.2.host.world.received.map (·.method) = [.send, .send] ∧
      ¬squawked.2.host.metrics.AccountFor squawked.2.host.world.received
        ((bot squawk).processor.history hi start) ∧
      boasted.2.host.world.received = [] ∧
      ¬boasted.2.host.metrics.AccountFor boasted.2.host.world.received
        ((bot boast).processor.history hi start) := by
  intro squawked boasted
  have hboasted : boasted.2.host.world.received = [] := by decide +kernel
  have hone : Counter.reading 1 ≠ Counter.reading 2 ∧ Counter.reading 1 ≠ Counter.reading 0 := by
    decide
  refine ⟨by rw [squawk_received]; rfl, fun account => ?_, hboasted, fun account => ?_⟩
  · have htwo := (account.calls .send).1
    have hshown := (((said_hi squawk).booked registry_proper).calls .send).1
    rw [squawk_received] at htwo hshown
    exact hone.1 (hshown.symm.trans htwo)
  · have hzero := (account.calls .send).1
    rw [hboasted] at hzero
    exact hone.2 (boast_counted.symm.trans hzero)

end Parrot

end ChatEngine
