import ChatEngine.Bot.Basic
import ChatEngine.Proofs.SteadyActions
import ChatEngine.Proofs.Transcript

/-!
# Actions that do not look at the log

The engine logs and counts what it does. An action or a driver that looks at neither is blind: run
on two hosts that differ in their metrics and log alone, it gives the same result, and the hosts
still differ in nothing else. Processing with blind actions and a blind driver is blind as well, and
the driver of every bot is.
-/

namespace ChatEngine
open Outbox

/-! ### Computations on related states -/

section
variable {σ α β : Type} {R : σ → σ → Prop}

/-- Runs from related states give the same result and end in related states. -/
def Respects (R : σ → σ → Prop) (act : StateM σ α) : Prop :=
  ∀ s s', R s s' → (act s).1 = (act s').1 ∧ R (act s).2 (act s').2

lemma Respects.pure (a : α) : Respects R (pure a) := fun _ _ h => ⟨rfl, h⟩

lemma Respects.bind {act : StateM σ α} {next : α → StateM σ β} (hact : Respects R act)
    (hnext : ∀ a, Respects R (next a)) : Respects R (act >>= next) := by
  intro s s' h
  obtain ⟨hresult, hstate⟩ := hact s s' h
  rw [bind_apply, bind_apply, ← hresult]
  exact hnext _ _ _ hstate

lemma Respects.modify {f : σ → σ} (hf : ∀ s s', R s s' → R (f s) (f s')) :
    Respects R (modify f) := fun s s' h => ⟨rfl, hf s s' h⟩

end

/-! ### Blind computations -/

variable {σ α : Type}

/-- Hosts that differ in their metrics and log alone. -/
structure Host.Alike (h h' : Host σ) : Prop where
  world : h.world = h'.world
  profiles : h.profiles = h'.profiles

/-- A computation that does not look at the metrics and the log. -/
abbrev Blind (act : StateM (Host σ) α) : Prop := Respects Host.Alike act

namespace Host.Alike

lemma refl (h : Host σ) : h.Alike h := ⟨rfl, rfl⟩

lemma symm {h h' : Host σ} (alike : h.Alike h') : h'.Alike h :=
  ⟨alike.world.symm, alike.profiles.symm⟩

lemma trans {h h' h'' : Host σ} (first : h.Alike h') (second : h'.Alike h'') : h.Alike h'' :=
  ⟨first.world.trans second.world, first.profiles.trans second.profiles⟩

lemma recorded (level : LogLevel) (event : String) (fields : List (String × Value))
    (h : Host σ) : h.Alike (Host.record level event fields h).2 := ⟨rfl, rfl⟩

lemma counted (id : CounterId) (labels : List (String × String)) (h : Host σ) :
    h.Alike (Host.count id labels h).2 := ⟨rfl, rfl⟩

end Host.Alike

namespace Respects

lemma record (level : LogLevel) (event : String) (fields : List (String × Value)) :
    Blind (Host.record level event fields : StateM (Host σ) Unit) :=
  .modify fun _ _ h => ⟨h.world, h.profiles⟩

lemma count (id : CounterId) (labels : List (String × String)) :
    Blind (Host.count id labels : StateM (Host σ) Unit) :=
  .modify fun _ _ h => ⟨h.world, h.profiles⟩

lemma outside (act : Effect σ α) : Blind (Host.outside act).attempt := by
  intro h h' alike
  have hresult : (act.run h.world).1 = (act.run h'.world).1 := by rw [alike.world]
  have hworld : (act.run h.world).2 = (act.run h'.world).2 := by rw [alike.world]
  exact ⟨hresult, hworld, alike.profiles⟩

section
variable [Clocked σ]

lemma timed (id : HistogramId) (labels : List (String × String)) {act : StateM (Host σ) α}
    (hact : Blind act) : Blind (Host.timed id labels act) := by
  intro h h' alike
  obtain ⟨hresult, hhost⟩ := hact h h' alike
  exact ⟨hresult, hhost.world, hhost.profiles⟩

lemma metered (service method : String) {act : Effect (Host σ) α} (hact : Blind act.attempt) :
    Blind (Host.metered service method act).attempt := by
  intro h h' alike
  let labels := [("service", service), ("method", method)]
  obtain ⟨hresult, hhost⟩ :=
    ((count .serviceCalls labels).bind fun _ => timed .service labels hact) h h' alike
  unfold Host.metered
  dsimp only [Effect.attempt, Effect.of, ExceptT.run, ExceptT.mk] at hresult hhost ⊢
  generalize (Host.count .serviceCalls labels >>= fun _ => Host.timed .service labels act) h =
    done at hresult hhost ⊢
  generalize (Host.count .serviceCalls labels >>= fun _ => Host.timed .service labels act) h' =
    done' at hresult hhost ⊢
  obtain ⟨result, next⟩ := done
  obtain ⟨result', next'⟩ := done'
  dsimp only at hresult hhost ⊢
  subst hresult
  cases result with
  | ok a => exact ⟨rfl, hhost⟩
  | error fault => exact ⟨rfl, hhost.world, hhost.profiles⟩

end

end Respects

/-! ### Drivers -/

/-- A driver whose operations are blind. -/
structure ChatDriver.Blind (d : ChatDriver (Host σ)) : Prop where
  send : ∀ message, ChatEngine.Blind (d.send message).attempt
  update : ∀ id text blocks, ChatEngine.Blind (d.update id text blocks).attempt
  delete : ∀ id, ChatEngine.Blind (d.delete id).attempt
  whisper : ∀ message, ChatEngine.Blind (d.whisper message).attempt

lemma ChatDriver.outside_blind (d : ChatDriver σ) : d.outside.Blind where
  send _ := .outside _
  update _ _ _ := .outside _
  delete _ := .outside _
  whisper _ := .outside _

lemma ChatDriver.Blind.metered [Clocked σ] {d : ChatDriver (Host σ)} (hd : d.Blind) :
    d.metered.Blind where
  send message := .metered _ _ (hd.send message)
  update id text blocks := .metered _ _ (hd.update id text blocks)
  delete id := .metered _ _ (hd.delete id)
  whisper message := .metered _ _ (hd.whisper message)

/-- The driver of a bot is blind, whatever the driver that the bot was given. -/
theorem Bot.driver_blind [Clocked σ] (b : Bot σ) : b.driver.Blind :=
  b.given.driver.outside_blind.metered

namespace Outbox

variable {o : Outbox σ}

lemma failed_blind (operation : String) (origin : MessageId) (action : ActionId)
    (response : Option MessageId) :
    Blind (failed operation origin action response : StateM (Host σ) Unit) :=
  (Respects.count _ _).bind fun _ => .record _ _ _

lemma request_blind (ho : o.driver.Blind) (op : Operation) : Blind (o.request op).attempt := by
  cases op with
  | send action message => exact ho.send message
  | whisper action message => exact ho.whisper message
  | update action target text blocks => exact ho.update target text blocks
  | delete action target => exact ho.delete target

lemma perform_blind (ho : o.driver.Blind) (origin : MessageId) (op : Operation) :
    Blind (o.perform origin op) := by
  apply (request_blind ho op).bind
  intro result
  cases result with
  | ok confirmation => exact .pure _
  | error fault => exact (failed_blind _ _ _ _).bind fun _ => .pure _

lemma performAll_blind (ho : o.driver.Blind) (origin : MessageId) (ops : List Operation) :
    Blind (o.performAll origin ops) := by
  induction ops with
  | nil => exact .pure _
  | cons op rest ih =>
    exact (perform_blind ho origin op).bind fun call => ih.bind fun calls => .pure _

lemma reconcileCalls_blind (ho : o.driver.Blind) (message : IncomingMessage)
    (replies : List PendingReply) (prior : List Response) :
    Blind (o.reconcileCalls message replies prior) := by
  apply (performAll_blind ho _ _).bind
  intro calls
  dsimp only
  split
  · exact (Respects.record _ _ _).bind fun _ => .pure _
  · exact .pure _

end Outbox

/-! ### Actions -/

/-- An action whose answers are blind. -/
def RegisteredAction.Blind (r : RegisteredAction σ) : Prop :=
  ∀ message, ChatEngine.Blind (r.action.answer r.plugin.services message).attempt

namespace RegisteredAction

lemma Blind.evaluate {r : RegisteredAction σ} (hr : r.Blind) (view : IncomingMessage) :
    ChatEngine.Blind (r.evaluate view).attempt := by
  unfold RegisteredAction.evaluate
  cases r.action.isMatch view with
  | error fault => exact .pure _
  | ok matched =>
    cases matched with
    | false => exact .pure _
    | true => exact hr view

lemma Blind.tryAnswer [Clocked σ] {r : RegisteredAction σ} (hr : r.Blind)
    (message : IncomingMessage) : ChatEngine.Blind (r.tryAnswer message) := by
  unfold RegisteredAction.tryAnswer
  cases r.prepare message with
  | none => exact .pure _
  | some view =>
    refine (Respects.timed _ _ ((hr.evaluate view).bind fun result => ?_)).bind fun result => ?_
    · cases result with
      | error fault => exact (Respects.record _ _ _).bind fun _ => .pure _
      | ok answer => exact .pure _
    · rcases result with fault | (_ | answer)
      · exact .pure _
      · exact .pure _
      · dsimp only
        split
        · exact .pure _
        · exact (Respects.count _ _).bind fun _ => .pure _

end RegisteredAction

/-- A registry of blind actions. -/
structure PluginRegistry.Blind (registry : PluginRegistry σ) : Prop where
  commands : ∀ r ∈ registry.commands, r.Blind
  hearActions : ∀ r ∈ registry.hearActions, r.Blind

/-- The replies of blind actions do not depend on the metrics and the log. -/
theorem Dialog.replies_blind [Clocked σ] {d : Dialog σ} {message : IncomingMessage}
    (hd : ∀ r ∈ d.candidates message, r.Blind) : Blind (d.replies message) := by
  have hgather : ∀ actions : List (RegisteredAction σ), (∀ r ∈ actions, r.Blind) →
      Blind (gather message actions) := by
    intro actions hactions
    induction actions with
    | nil => exact .pure _
    | cons r rest ih =>
      have hfirst := (hactions r List.mem_cons_self).tryAnswer message
      have hrest := ih fun q hq => hactions q (List.mem_cons_of_mem _ hq)
      refine hfirst.bind fun answer => hrest.bind fun replies => ?_
      cases answer <;> exact .pure _
  apply (hgather _ hd).bind
  intro replies
  split <;> exact .pure _

/-! ### Processing -/

namespace Processor

/-- A processor whose actions and driver do not look at the metrics and the log. -/
structure Blind (p : Processor σ) : Prop where
  commands : ∀ r ∈ p.dialog.commands, r.Blind
  hearActions : ∀ r ∈ p.dialog.hearActions, r.Blind
  driver : p.outbox.driver.Blind

/-- States that differ in the metrics and the log alone. -/
structure State.Alike (s s' : State σ) : Prop where
  tracker : s.tracker = s'.tracker
  host : s.host.Alike s'.host

lemma State.Alike.refl (s : State σ) : s.Alike s := ⟨rfl, .refl _⟩

lemma State.Alike.symm {s s' : State σ} (h : s.Alike s') : s'.Alike s :=
  ⟨h.tracker.symm, h.host.symm⟩

lemma State.Alike.trans {s s' s'' : State σ} (h : s.Alike s') (h' : s'.Alike s'') :
    s.Alike s'' := ⟨h.tracker.trans h'.tracker, h.host.trans h'.host⟩

lemma onHost_respects {act : StateM (Host σ) α} (hact : ChatEngine.Blind act) :
    Respects State.Alike (onHost act) := by
  intro s s' h
  obtain ⟨hresult, hhost⟩ := hact _ _ h.host
  exact ⟨hresult, h.tracker, hhost⟩

lemma remembered_respects (origin : MessageId) :
    Respects State.Alike (remembered origin : Step σ (Option (List Response))) := by
  intro s s' h
  rw [remembered_apply, remembered_apply, ← h.tracker]
  exact ⟨rfl, rfl, h.host⟩

lemma observeRemember_respects (origin : MessageId) (responses : List Response) :
    Respects State.Alike (observeRemember origin responses : Step σ Transcript) := by
  intro s s' h
  rw [observeRemember_apply, observeRemember_apply, ← h.tracker]
  exact ⟨rfl, rfl, h.host⟩

variable {p : Processor σ}

lemma Blind.observeDelete (hp : p.Blind) (origin : MessageId) :
    Respects State.Alike (p.observeDelete origin) := by
  apply (remembered_respects origin).bind
  intro found
  cases found with
  | none => exact (onHost_respects (.record _ _ _)).bind fun _ => .pure _
  | some prior =>
    have hcalls := onHost_respects (performAll_blind hp.driver origin (withdrawals prior))
    exact hcalls.bind fun calls => (observeRemember_respects _ _).bind fun _ => .pure _

section
variable [Clocked σ]

lemma timed_respects (labels : List (String × String)) {act : Step σ α}
    (hact : Respects State.Alike act) : Respects State.Alike (timed labels act) := by
  intro s s' h
  obtain ⟨hresult, hstate⟩ := hact s s' h
  exact ⟨hresult, hstate.tracker, hstate.host.world, hstate.host.profiles⟩

lemma Blind.observeIncoming (hp : p.Blind) (message : IncomingMessage) :
    Respects State.Alike (p.observeIncoming message) := by
  have hactions : ∀ r ∈ p.dialog.candidates message, r.Blind := by
    unfold Dialog.candidates
    split
    · exact hp.commands
    · exact hp.hearActions
  refine (onHost_respects (Dialog.replies_blind hactions)).bind fun replies => ?_
  refine (remembered_respects _).bind fun prior => ?_
  refine (onHost_respects (reconcileCalls_blind hp.driver _ _ _)).bind fun calls => ?_
  exact (observeRemember_respects _ _).bind fun _ => .pure _

lemma Blind.observeMessage (hp : p.Blind) (event : MessageEvent) :
    Respects State.Alike (p.observeMessage event) := by
  unfold Processor.observeMessage
  rcases p.dialog.incoming event with fault | (_ | message)
  · exact .pure _
  · exact .pure _
  · dsimp only
    split
    · exact (onHost_respects (.record _ _ _)).bind fun _ => .pure _
    · exact (hp.observeIncoming message).bind fun _ => .pure _

/-- Processing with blind actions and a blind driver is blind: what happens, and the tracker
afterwards, do not depend on the metrics and the log. -/
theorem Blind.observe (hp : p.Blind) (event : MessageEvent) :
    Respects State.Alike (p.observe event) := by
  unfold Processor.observe
  split
  · exact (onHost_respects (.record _ _ _)).bind fun _ => .pure _
  · cases event.validate with
    | error refusal => exact (onHost_respects (.record _ _ _)).bind fun _ => .pure _
    | ok =>
      refine (onHost_respects (.count _ _)).bind fun _ => timed_respects _ ?_
      split
      · exact (hp.observeDelete _).bind fun _ => .pure _
      · exact hp.observeMessage event

end

end Processor

/-- The processor of a bot with blind actions is blind. -/
lemma Bot.processor_blind [Clocked σ] {b : Bot σ} (blind : b.registry.Blind) :
    b.processor.Blind :=
  ⟨blind.commands, blind.hearActions, b.driver_blind⟩

namespace Echo

lemma registry_blind : registry.Blind where
  commands r hr := by
    have hactions : registry.commands =
        (Help.plugin "bot" "1" "Local" [plugin]).registeredCommands := rfl
    rw [hactions] at hr
    rw [List.mem_singleton.mp hr]
    exact fun _ _ _ alike => ⟨rfl, alike⟩
  hearActions r hr := by
    have hactions : registry.hearActions = plugin.registeredHearActions := rfl
    rw [hactions] at hr
    rcases List.mem_cons.mp hr with rfl | hr
    · exact fun _ _ _ alike => ⟨rfl, alike⟩
    · rw [List.mem_singleton.mp hr]
      exact fun _ _ _ alike => ⟨rfl, alike⟩

end Echo

end ChatEngine
