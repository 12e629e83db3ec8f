import ChatEngine.Bot.Basic
import ChatEngine.Proofs.CounterReadings
import ChatEngine.Proofs.OutboxCalls

/-!
# Metered calls

Calls of a driver, some of which are metered. To compare what the metrics say with what the driver
was called for, the world keeps a receipt of every call that the driver receives, which tells whether
the call came through the meter (`ChatDriver.watched`). `Ledger` says that metrics agree with the
receipts of metered calls, and with notes of what the engine did besides.

Every call of the metered driver keeps the ledger and is otherwise what the call of the driver alone
is (`ChatDriver.relayed`). A call past the meter, such as those of a sender that is the driver itself,
leaves a receipt and nothing in the metrics (`ChatDriver.bypassed`). So whatever a plugin does keeps
the ledger, as long as the plugin does not write into the metrics (`Conduct`). The services that a bot
gives its plugins are of this kind, whatever it was given for them (`Bot.services_proper`).
-/

namespace ChatEngine
open Outbox

/-! ### Receipts -/

/-- The methods of a chat driver. -/
inductive Method where
  | send
  | update
  | delete
  | whisper
  deriving DecidableEq

namespace Method

def name : Method → String
  | .send => "send_message"
  | .update => "update_message"
  | .delete => "delete_message"
  | .whisper => "send_ephemeral"

def labels (m : Method) : List (String × String) := LabelSet.ofMethod "chat_driver" m.name

lemma name_injective : Function.Injective name := by
  intro m m' h
  cases m <;> cases m' <;> first | rfl | simp [name] at h

lemma labels_injective : Function.Injective fun m : Method => LabelSet.ofList m.labels :=
  fun _ _ h => name_injective (LabelSet.ofMethod_inj h).2

end Method

/-- A call that a chat driver received, whether it failed, and whether it came through the meter. -/
structure Receipt where
  method : Method
  failed : Bool
  metered : Bool
  deriving DecidableEq

namespace Receipt

/-- The receipts of calls that came through the meter. -/
def counted (received : List Receipt) : List Receipt := received.filter (·.metered)

/-- Whether no call came through the meter in the meantime. -/
def Bypass (before after : List Receipt) : Prop :=
  ∃ past, after = before ++ past ∧ ∀ receipt ∈ past, receipt.metered = false

variable {before after : List Receipt}

lemma Bypass.refl (received : List Receipt) : Bypass received received :=
  ⟨[], (List.append_nil _).symm, nofun⟩

lemma Bypass.counted_eq (h : Bypass before after) : counted after = counted before := by
  obtain ⟨past, rfl, hpast⟩ := h
  have hnone : past.filter (·.metered) = [] :=
    List.filter_eq_nil_iff.mpr fun receipt hmem => by simp [hpast receipt hmem]
  rw [counted, counted, List.filter_append, hnone, List.append_nil]

lemma counted_concat (received : List Receipt) (method : Method) (failed : Bool) :
    counted (received ++ [⟨method, failed, true⟩]) =
      counted received ++ [⟨method, failed, true⟩] := by
  simp [counted]

end Receipt

/-- A world, and the calls that its chat driver received. -/
structure Watched (σ : Type) where
  world : σ
  received : List Receipt := []

namespace Watched

variable {σ α : Type}

instance [Clocked σ] : Clocked (Watched σ) := ⟨fun w => Clocked.now w.world⟩

/-- An effect of the world that calls no driver. -/
def own (act : Effect σ α) : Effect (Watched σ) α := Effect.of fun w =>
  let (result, world) := act.run w.world
  (result, { w with world })

/-- A call of the driver, with its receipt. -/
def receive (metered : Bool) (method : Method) (act : Effect σ α) : Effect (Watched σ) α :=
  Effect.of fun w =>
    let (result, world) := act.run w.world
    (result, ⟨world, w.received ++ [⟨method, !result.isOk, metered⟩]⟩)

/-- Whether an effect calls the driver past the meter only, if at all. -/
def Bypasses (act : Effect (Watched σ) α) : Prop :=
  ∀ w, Receipt.Bypass w.received (act.attempt w).2.received

lemma receive_bypasses (method : Method) (act : Effect σ α) :
    Bypasses (receive false method act) := fun _ =>
  ⟨[_], rfl, List.forall_mem_singleton.mpr rfl⟩

end Watched

variable {σ α β : Type}

/-- The driver, with a receipt for every call. -/
def ChatDriver.watched (d : ChatDriver σ) (metered : Bool) : ChatDriver (Watched σ) where
  send message := Watched.receive metered .send (d.send message)
  update id text blocks := Watched.receive metered .update (d.update id text blocks)
  delete id := Watched.receive metered .delete (d.delete id)
  whisper message := Watched.receive metered .whisper (d.whisper message)

/-- Surroundings around a driver that leaves a receipt for every call. What they provide besides the
driver may call it too, but not through the meter of a bot. -/
structure Surroundings.Watches (g : Surroundings (Watched σ)) (d : ChatDriver σ) : Prop where
  driver : g.driver = d.watched true
  users : ∀ find ∈ g.users, ∀ userId, Watched.Bypasses (find userId)
  reactor : ∀ add ∈ g.reactor, ∀ name item, Watched.Bypasses (add name item)
  uploader : ∀ send ∈ g.uploader, ∀ params, Watched.Bypasses (send params)
  sender : ∀ send ∈ g.sender, ∀ text channel, Watched.Bypasses (send text channel)

/-! ### Metrics in agreement with receipts and notes -/

/-- What the engine counts besides the calls of services. -/
inductive Noted where
  /-- A call that the engine made for a reply failed. -/
  | failed (operation : String)
  /-- The processing of an event began. -/
  | processed (kind : MessageKind)
  /-- An action of a plugin gave an answer that is not empty. -/
  | answered (plugin : String)
  deriving DecidableEq

namespace Noted

def counter : Noted → CounterId
  | .failed _ => .outboundErrors
  | .processed _ => .messagesProcessed
  | .answered _ => .pluginAnswers

def labels : Noted → List (String × String)
  | .failed operation => [("operation", operation)]
  | .processed kind => [("type", kind.text)]
  | .answered plugin => [("plugin", plugin)]

lemma counted_apart {note note' : Noted} (hcounter : note.counter = note'.counter)
    (hlabels : LabelSet.ofList note.labels = LabelSet.ofList note'.labels) : note = note' := by
  have hkey (key text text' : String)
      (h : LabelSet.ofList [(key, text)] = LabelSet.ofList [(key, text')]) : text = text' := by
    rw [LabelSet.ofList_singleton, LabelSet.ofList_singleton] at h
    exact congrArg Prod.snd (List.singleton_injective h)
  have hkind (kind kind' : MessageKind) (h : kind.text = kind'.text) : kind = kind' := by
    cases kind <;> cases kind' <;> first | rfl | simp [MessageKind.text] at h
  cases note with
  | failed operation =>
    cases note' with
    | failed operation' => rw [hkey _ _ _ hlabels]
    | _ => cases hcounter
  | processed kind =>
    cases note' with
    | processed kind' => rw [hkind _ _ (hkey _ _ _ hlabels)]
    | _ => cases hcounter
  | answered plugin =>
    cases note' with
    | answered plugin' => rw [hkey _ _ _ hlabels]
    | _ => cases hcounter

lemma counter_ne_services (note : Noted) :
    note.counter ≠ .serviceCalls ∧ note.counter ≠ .serviceErrors ∧
      note.counter ≠ .cacheLookups := by
  cases note <;> exact ⟨nofun, nofun, nofun⟩

end Noted

open Counter in
/-- Metrics that agree with notes and with the calls that the driver received. -/
structure Ledger (notes : List Noted) (m : Metrics) (received : List Receipt) : Prop where
  calls : ∀ method : Method, Shows (m.value .serviceCalls method.labels)
    ((received.map (·.method)).count method)
  errors : ∀ method : Method, Shows (m.value .serviceErrors method.labels)
    (((received.filter (·.failed)).map (·.method)).count method)
  durations : ∀ method : Method, (m.observed .service method.labels).length =
    (received.map (·.method)).count method
  noted : ∀ note : Noted, Shows (m.value note.counter note.labels) (notes.count note)

/-- What a call of the chat driver leaves in the metrics. -/
def Metrics.metered (m : Metrics) (receipt : Receipt) (seconds : Float) : Metrics :=
  let labels := receipt.method.labels
  let observed := (m.count .serviceCalls labels).observe .service labels seconds
  if receipt.failed then observed.count .serviceErrors labels else observed

namespace Ledger
open Counter Metrics

variable {notes : List Noted} {m m' : Metrics} {received : List Receipt}

/-- Metrics that show the same agree with the same. -/
lemma of_values (h : Ledger notes m received)
    (hcalls : ∀ method : Method,
      m'.value .serviceCalls method.labels = m.value .serviceCalls method.labels)
    (herrors : ∀ method : Method,
      m'.value .serviceErrors method.labels = m.value .serviceErrors method.labels)
    (hdurations : ∀ method : Method,
      m'.observed .service method.labels = m.observed .service method.labels)
    (hnoted : ∀ note : Noted,
      m'.value note.counter note.labels = m.value note.counter note.labels) :
    Ledger notes m' received where
  calls method := hcalls method ▸ h.calls method
  errors method := herrors method ▸ h.errors method
  durations method := hdurations method ▸ h.durations method
  noted note := hnoted note ▸ h.noted note

lemma perm {notes' : List Noted} (h : Ledger notes m received) (hperm : notes.Perm notes') :
    Ledger notes' m received where
  calls := h.calls
  errors := h.errors
  durations := h.durations
  noted note := hperm.count_eq note ▸ h.noted note

lemma observe (h : Ledger notes m received) {id : HistogramId} (hid : id ≠ .service)
    (labels : List (String × String)) (seconds : Float) :
    Ledger notes (m.observe id labels seconds) received :=
  h.of_values (fun _ => value_observe _ _) (fun _ => value_observe _ _)
    (fun _ => observed_observe_other seconds hid.symm) fun _ => value_observe _ _

lemma lookedUp (h : Ledger notes m received) (labels : List (String × String)) :
    Ledger notes (m.count .cacheLookups labels) received :=
  h.of_values (fun _ => value_count_other nofun) (fun _ => value_count_other nofun)
    (fun _ => observed_count _) fun note => value_count_other note.counter_ne_services.2.2

lemma note (h : Ledger notes m received) (new : Noted) :
    Ledger (notes ++ [new]) (m.count new.counter new.labels) received where
  calls method := by
    rw [value_count_other new.counter_ne_services.1.symm]
    exact h.calls method
  errors method := by
    rw [value_count_other new.counter_ne_services.2.1.symm]
    exact h.errors method
  durations method := by
    rw [observed_count]
    exact h.durations method
  noted := by
    refine Shows.tally h.noted value_count_self fun note hnew => ?_
    by_cases hcounter : note.counter = new.counter
    · rw [hcounter]
      exact value_count_apart fun hlabels => hnew (Noted.counted_apart hcounter hlabels)
    · exact value_count_other hcounter

/-- What is counted of services other than the chat driver. -/
lemma count_service (h : Ledger notes m received) {service : String}
    (other : service ≠ "chat_driver") (method : String) {id : CounterId}
    (hid : id = .serviceCalls ∨ id = .serviceErrors) :
    Ledger notes (m.count id (LabelSet.ofMethod service method)) received := by
  have hvalue (id' : CounterId) (method' : Method) :
      (m.count id (LabelSet.ofMethod service method)).value id' method'.labels =
        m.value id' method'.labels := by
    by_cases hsame : id' = id
    · rw [hsame]
      exact value_count_apart fun hlabels => other (LabelSet.ofMethod_inj hlabels).1.symm
    · exact value_count_other hsame
  refine h.of_values (hvalue _) (hvalue _) (fun _ => observed_count _)
    fun note => value_count_other ?_
  rcases hid with rfl | rfl
  · exact note.counter_ne_services.1
  · exact note.counter_ne_services.2.1

lemma observe_service (h : Ledger notes m received) {service : String}
    (other : service ≠ "chat_driver") (method : String) (seconds : Float) :
    Ledger notes (m.observe .service (LabelSet.ofMethod service method) seconds) received :=
  h.of_values (fun _ => value_observe _ _) (fun _ => value_observe _ _)
    (fun _ => observed_observe_apart _ _ fun hlabels =>
      other (LabelSet.ofMethod_inj hlabels).1.symm)
    fun _ => value_observe _ _

lemma value_metered (receipt : Receipt) (seconds : Float) {id : CounterId}
    (hid : id ≠ .serviceErrors) (labels : List (String × String)) :
    (m.metered receipt seconds).value id labels =
      (m.count .serviceCalls receipt.method.labels).value id labels := by
  unfold Metrics.metered
  dsimp only
  split
  · rw [value_count_other hid, value_observe]
  · rw [value_observe]

/-- Before a failure is counted, metrics show as many failures as before the call. -/
lemma errors_called (method : Method) (seconds : Float) (labels : List (String × String)) :
    ((m.count .serviceCalls method.labels).observe .service method.labels seconds).value
      .serviceErrors labels = m.value .serviceErrors labels := by
  have hid : CounterId.serviceErrors ≠ .serviceCalls := nofun
  rw [value_observe, value_count_other hid]

/-- A metered call of the chat driver, with its receipt. -/
lemma call (h : Ledger notes m received) (receipt : Receipt) (seconds : Float) :
    Ledger notes (m.metered receipt seconds) (received ++ [receipt]) where
  calls := by
    have hid : CounterId.serviceCalls ≠ .serviceErrors := nofun
    rw [List.map_append]
    refine Shows.tally h.calls ?_ fun method hmethod => ?_
    · rw [value_metered receipt seconds hid]
      exact value_count_self
    · rw [value_metered receipt seconds hid]
      exact value_count_apart fun hlabels => hmethod (Method.labels_injective hlabels)
  errors := by
    -- The error is counted last, after the call and its duration.
    obtain ⟨method, failed, metered⟩ := receipt
    cases failed with
    | false =>
      have hsame : (received ++ [Receipt.mk method false metered]).filter (·.failed) =
          received.filter (·.failed) := by simp
      intro method'
      rw [hsame]
      exact (errors_called method seconds method'.labels).symm ▸ h.errors method'
    | true =>
      have hone : (received ++ [Receipt.mk method true metered]).filter (·.failed) =
          received.filter (·.failed) ++ [⟨method, true, metered⟩] := by simp
      rw [hone, List.map_append]
      refine Shows.tally h.errors ?_ fun method' hmethod => ?_
      · exact value_count_self.trans (congrArg (· + 1.0) (errors_called _ _ _))
      · refine (value_count_apart fun hlabels => ?_).trans (errors_called _ _ _)
        exact hmethod (Method.labels_injective hlabels)
  durations method := by
    have hobserved : (m.metered receipt seconds).observed .service method.labels =
        ((m.count .serviceCalls receipt.method.labels).observe .service receipt.method.labels
          seconds).observed .service method.labels := by
      unfold Metrics.metered
      dsimp only
      split
      · rw [observed_count]
      · rfl
    rw [hobserved, List.map_append, List.count_append, ← h.durations]
    by_cases hmethod : method = receipt.method
    · rw [hmethod, observed_observe_self, observed_count, List.length_append]
      simp
    · rw [observed_observe_apart _ _ fun hlabels => hmethod (Method.labels_injective hlabels),
        observed_count]
      simp [Ne.symm hmethod]
  noted note := by
    rw [value_metered receipt seconds note.counter_ne_services.2.1,
      value_count_other note.counter_ne_services.1]
    exact h.noted note

end Ledger

/-- A host whose metrics agree with notes and with what the driver received through the meter. -/
def Booked (notes : List Noted) (h : Host (Watched σ)) : Prop :=
  Ledger notes h.metrics (Receipt.counted h.world.received)

lemma Booked.unnoted {notes : List Noted} {h : Host (Watched σ)} (booked : Booked notes h) :
    Booked (notes ++ []) h := by
  rw [List.append_nil]
  exact booked

/-! ### Calls of a metered driver -/

section
variable [Clocked σ]

/-- A metered call of the driver, with its receipt. -/
def audited (method : Method) (act : Effect σ α) : Effect (Host (Watched σ)) α :=
  Host.metered "chat_driver" method.name (Host.outside (Watched.receive true method act))

/-- The driver with its calls metered, and with a receipt for every call that gets through. -/
def ChatDriver.audited (d : ChatDriver σ) : ChatDriver (Host (Watched σ)) :=
  (d.watched true).outside.metered

lemma Host.metered_attempt (service method : String) (act : Effect (Host σ) α) (h : Host σ) :
    (Host.metered service method act).attempt h =
      let labels := LabelSet.ofMethod service method
      let done := act.attempt { h with metrics := h.metrics.count .serviceCalls labels }
      let observed := done.2.metrics.observe .service labels
        (Clocked.now done.2.world - Clocked.now h.world)
      (done.1, { done.2 with
        metrics := if done.1.isOk then observed else observed.count .serviceErrors labels }) := by
  unfold LabelSet.ofMethod
  have htimed : (do
      Host.count .serviceCalls [("service", service), ("method", method)]
      Host.timed .service [("service", service), ("method", method)] act.attempt :
        StateM (Host σ) (Except Fault α)) h =
      let labels := [("service", service), ("method", method)]
      let done := act.attempt { h with metrics := h.metrics.count .serviceCalls labels }
      let observed := done.2.metrics.observe .service labels
        (Clocked.now done.2.world - Clocked.now h.world)
      (done.1, { done.2 with metrics := observed }) := rfl
  unfold Host.metered
  dsimp only [Effect.attempt, Effect.of, ExceptT.run, ExceptT.mk] at htimed ⊢
  rw [htimed]
  cases (act _).1 <;> rfl

lemma audited_attempt (method : Method) (act : Effect σ α) (h : Host (Watched σ)) :
    (audited method act).attempt h =
      let done := act.attempt h.world.world
      let receipt : Receipt := ⟨method, !done.1.isOk, true⟩
      let seconds := Clocked.now done.2 - Clocked.now h.world.world
      (done.1, { h with
        world := ⟨done.2, h.world.received ++ [receipt]⟩
        metrics := h.metrics.metered receipt seconds }) := by
  refine (Host.metered_attempt _ _ _ h).trans ?_
  have hreceived (metrics : Metrics) :
      (Host.outside (Watched.receive true method act)).attempt { h with metrics } =
        ((act.attempt h.world.world).1, { h with
          metrics
          world := ⟨(act.attempt h.world.world).2,
            h.world.received ++ [⟨method, !(act.attempt h.world.world).1.isOk, true⟩]⟩ }) := rfl
  dsimp only
  rw [hreceived]
  cases (act.attempt h.world.world).1 <;> rfl

/-- A call that is otherwise what another one is: it gives the same result and does the same to the
world, while the driver receives it once, through the meter. -/
def Relays (method : Method) (act : Effect σ α) (call : Effect (Host (Watched σ)) α) : Prop :=
  ∀ h, let done := act.attempt h.world.world
    (call.attempt h).1 = done.1 ∧
      (call.attempt h).2.world = ⟨done.2, h.world.received ++ [⟨method, !done.1.isOk, true⟩]⟩

lemma audited_relays (method : Method) (act : Effect σ α) :
    Relays method act (audited method act) := by
  intro h
  rw [audited_attempt]
  exact ⟨rfl, rfl⟩

/-- A driver whose calls are passed on, and whose results are passed back. -/
structure ChatDriver.Relayed (d : ChatDriver σ) (metered : ChatDriver (Host (Watched σ))) :
    Prop where
  send : ∀ message, Relays .send (d.send message) (metered.send message)
  update : ∀ id text blocks,
    Relays .update (d.update id text blocks) (metered.update id text blocks)
  delete : ∀ id, Relays .delete (d.delete id) (metered.delete id)
  whisper : ∀ message, Relays .whisper (d.whisper message) (metered.whisper message)

/-- A metered driver gives the driver every call once, and passes results and errors on as they
are. -/
theorem ChatDriver.relayed (d : ChatDriver σ) : d.Relayed d.audited where
  send _ := audited_relays _ _
  update _ _ _ := audited_relays _ _
  delete _ := audited_relays _ _
  whisper _ := audited_relays _ _

/-- A call past the meter: the driver receives it, and the metrics stay as they are. -/
def Slips (method : Method) (act : Effect σ α) (call : Effect (Host (Watched σ)) α) : Prop :=
  ∀ h, let done := act.attempt h.world.world
    (call.attempt h).1 = done.1 ∧ (call.attempt h).2.metrics = h.metrics ∧
      (call.attempt h).2.world = ⟨done.2, h.world.received ++ [⟨method, !done.1.isOk, false⟩]⟩

/-- A driver that is used as it is. -/
structure ChatDriver.Bypassed (d : ChatDriver σ) (plain : ChatDriver (Host (Watched σ))) :
    Prop where
  send : ∀ message, Slips .send (d.send message) (plain.send message)
  update : ∀ id text blocks, Slips .update (d.update id text blocks) (plain.update id text blocks)
  delete : ∀ id, Slips .delete (d.delete id) (plain.delete id)
  whisper : ∀ message, Slips .whisper (d.whisper message) (plain.whisper message)

omit [Clocked σ] in
theorem ChatDriver.bypassed (d : ChatDriver σ) : d.Bypassed (d.watched false).outside where
  send _ _ := ⟨rfl, rfl, rfl⟩
  update _ _ _ _ := ⟨rfl, rfl, rfl⟩
  delete _ _ := ⟨rfl, rfl, rfl⟩
  whisper _ _ := ⟨rfl, rfl, rfl⟩

/-! ### What plugins do -/

lemma Booked.audited {notes : List Noted} {h : Host (Watched σ)} (booked : Booked notes h)
    (method : Method) (act : Effect σ α) : Booked notes ((audited method act).attempt h).2 := by
  rw [audited_attempt]
  unfold Booked
  dsimp only
  rw [Receipt.counted_concat]
  exact booked.call _ _

/-- What a plugin can do that does not write into the metrics itself: anything else to its world and
to the host, calls of the driver past the meter included, calls of the metered driver, and metered
calls and counted look-ups of other services. -/
inductive Conduct (d : ChatDriver σ) : {α : Type} → Effect (Host (Watched σ)) α → Prop
  | own {α : Type} {act : Effect (Host (Watched σ)) α}
      (metrics : ∀ h, (act.attempt h).2.metrics = h.metrics)
      (bypass : ∀ h, Receipt.Bypass h.world.received (act.attempt h).2.world.received) :
      Conduct d act
  | send (message : Outgoing) : Conduct d (d.audited.send message)
  | update (id : MessageId) (text : String) (blocks : Option (List Value)) :
      Conduct d (d.audited.update id text blocks)
  | delete (id : MessageId) : Conduct d (d.audited.delete id)
  | whisper (message : Whisper) : Conduct d (d.audited.whisper message)
  | service {α : Type} {act : Effect (Host (Watched σ)) α} {service : String}
      (other : service ≠ "chat_driver") (method : String) (conduct : Conduct d act) :
      Conduct d (Host.metered service method act)
  | lookedUp (labels : List (String × String)) :
      Conduct d (Effect.lift (Host.count .cacheLookups labels))
  | bind {α β : Type} {act : Effect (Host (Watched σ)) α} {next : α → Effect (Host (Watched σ)) β}
      (conduct : Conduct d act) (further : ∀ a, Conduct d (next a)) : Conduct d (act >>= next)
  | attempt {α : Type} {act : Effect (Host (Watched σ)) α} (conduct : Conduct d act) :
      Conduct d (Effect.lift act.attempt)

/-- Whatever a plugin does, metrics stay in agreement. -/
theorem Booked.conduct {d : ChatDriver σ} {act : Effect (Host (Watched σ)) α}
    (conduct : Conduct d act) {notes : List Noted} {h : Host (Watched σ)}
    (booked : Booked notes h) : Booked notes (act.attempt h).2 := by
  -- On how the conduct is made: every part of it keeps the ledger on whatever host it runs.
  induction conduct generalizing h with
  | own metrics bypass =>
    unfold Booked
    rw [metrics, (bypass h).counted_eq]
    exact booked
  | send => exact booked.audited _ _
  | update => exact booked.audited _ _
  | delete => exact booked.audited _ _
  | whisper => exact booked.audited _ _
  | @service _ act service other method _ ih =>
    have hcalled := Ledger.count_service booked other method (.inl rfl)
    have hdone := Ledger.observe_service (ih (h := { h with metrics := _ }) hcalled) other method
    rw [Host.metered_attempt]
    unfold Booked
    dsimp only
    split
    · exact hdone _
    · exact (hdone _).count_service other method (.inr rfl)
  | lookedUp labels => exact Ledger.lookedUp booked labels
  | @bind _ _ act next _ _ ih ihfurther =>
    rw [Effect.attempt_bind]
    cases (act.attempt h).1 with
    | ok a => exact ihfurther a (ih booked)
    | error fault => exact ih booked
  | attempt _ ih => exact ih booked

/-! ### What plugins are given -/

namespace Conduct

variable {d : ChatDriver σ}

/-- What changes neither the metrics nor the receipts. -/
lemma aside {act : Effect (Host (Watched σ)) α}
    (metrics : ∀ h, (act.attempt h).2.metrics = h.metrics)
    (received : ∀ h, (act.attempt h).2.world.received = h.world.received) : Conduct d act :=
  .own metrics fun h => received h ▸ .refl _

lemma outside {act : Effect (Watched σ) α} (bypasses : Watched.Bypasses act) :
    Conduct d (Host.outside act) :=
  .own (fun _ => rfl) fun h => bypasses h.world

lemma fail (fault : Fault) : Conduct d (throw fault : Effect (Host (Watched σ)) α) :=
  .aside (fun _ => rfl) fun _ => rfl

lemma log (l : PluginLogger) (level : LogLevel) (event fmt : String) (args : List Value) :
    Conduct d (l.write level event fmt args) := by
  unfold PluginLogger.write
  cases PluginLogger.render fmt args with
  | ok text => exact .aside (fun _ => rfl) fun _ => rfl
  | error fault => exact .fail fault

lemma cachedFinder {directory : UserFinder (Host (Watched σ))}
    (hdirectory : ∀ userId, Conduct d (directory userId)) (userId : String) :
    Conduct d (ChatEngine.cachedFinder directory userId) := by
  unfold ChatEngine.cachedFinder
  refine .bind (.aside (fun _ => rfl) fun _ => rfl) fun h => ?_
  cases h.profiles with
  | none => exact hdirectory userId
  | some cache =>
    dsimp only
    refine .bind (.aside (fun _ => rfl) fun _ => rfl) fun _ => ?_
    cases (cache.get userId).1 with
    | some profile =>
      exact .bind (.lookedUp _) fun _ => .bind (.aside (fun _ => rfl) fun _ => rfl) fun _ =>
        .aside (fun _ => rfl) fun _ => rfl
    | none =>
      exact .bind (.lookedUp _) fun _ => .bind (.aside (fun _ => rfl) fun _ => rfl) fun _ =>
        .bind (hdirectory userId) fun _ => .bind (.aside (fun _ => rfl) fun _ => rfl) fun _ =>
          .aside (fun _ => rfl) fun _ => rfl

end Conduct

/-- Services that let a plugin do nothing but `Conduct`. -/
structure Services.Proper (d : ChatDriver σ) (s : Services (Host (Watched σ))) : Prop where
  getUser : ∀ userId, Conduct d (s.getUser userId)
  react : ∀ name item, Conduct d (s.react name item)
  upload : ∀ params options, Conduct d (s.upload params options)
  say : ∀ text channel, Conduct d (s.say text channel)
  log : ∀ l ∈ s.logger, ∀ level event fmt args, Conduct d (l.write level event fmt args)

/-- The services that a bot gives its plugins, whatever else the driver is used for. -/
theorem Bot.services_proper {b : Bot (Watched σ)} {d : ChatDriver σ} (watches : b.given.Watches d)
    (p : Plugin (Watched σ)) : (b.services p).Proper d where
  getUser userId := by
    unfold Services.getUser services
    cases hfind : b.given.users with
    | none => exact .fail _
    | some find =>
      have hbypasses (userId : String) := watches.users find hfind userId
      exact .service (by decide) _ (.cachedFinder (fun _ => .outside (hbypasses _)) userId)
  react name item := by
    unfold Services.react services
    cases hadd : b.given.reactor with
    | none => exact .fail _
    | some add => exact .service (by decide) _ (.outside (watches.reactor add hadd name item))
  upload params options := by
    unfold Services.upload services
    cases hsend : b.given.uploader with
    | none => exact .fail _
    | some send => exact .service (by decide) _ (.outside (watches.uploader send hsend _))
  say text channel := by
    unfold Services.say services sender driver
    cases hsend : b.given.sender with
    | none =>
      rw [watches.driver]
      exact .send _
    | some send => exact .outside (watches.sender send hsend text channel)
  log l _ level event fmt args := .log l level event fmt args

end

end ChatEngine
