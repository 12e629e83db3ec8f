import ChatEngine.Bot.Run
import ChatEngine.Proofs.IdleEvents
import ChatEngine.Proofs.RouterQueues

/-!
# Runs of bots with blind actions

Two bots whose actions do not look at the metrics and the log, and that differ in nothing else, read
the same stream alike: reading ends the same way, the world and the tracker are the same afterwards,
and so is everything else but the metrics and the log.
-/

namespace ChatEngine

lemma Respects.forM {σ α : Type} {R : σ → σ → Prop} {act : α → StateM σ Unit}
    (hact : ∀ a, Respects R (act a)) (l : List α) : Respects R (l.forM act) := by
  induction l with
  | nil => exact .pure ()
  | cons a rest ih => exact (hact a).bind fun _ => ih

lemma Respects.of_get {σ α : Type} {R : σ → σ → Prop} {next : σ → StateM σ α}
    (hnext : ∀ s s', R s s' → next s' = next s ∧ Respects R (next s)) :
    Respects R (get >>= next) := by
  intro s s' h
  obtain ⟨hsame, hrespects⟩ := hnext s s' h
  rw [get_bind_apply, get_bind_apply, hsame]
  exact hrespects s s' h

variable {σ α : Type}

namespace Bot

/-- Bots with blind actions that differ in their metrics and log alone. -/
def Twin (b b' : Bot σ) : Prop :=
  b.registry.Blind ∧ ∃ host, b' = { b with host } ∧ b.host.Alike host

lemma onHost_respects {act : StateM (Host σ) α} (hact : ChatEngine.Blind act) :
    Respects Twin (onHost act) := by
  rintro b _ ⟨blind, host, rfl, alike⟩
  obtain ⟨hresult, hhost⟩ := hact _ _ alike
  exact ⟨hresult, blind, _, rfl, hhost⟩

lemma record_respects (level : LogLevel) (event : String) (fields : List (String × Value)) :
    Respects Twin (record level event fields : Step σ Unit) :=
  onHost_respects (.record level event fields)

lemma modify_respects {f : Bot σ → Bot σ} (hf : ∀ b host, f { b with host } = { f b with host })
    (hkept : ∀ b, (f b).host = b.host ∧ (f b).registry = b.registry) :
    Respects Twin (modify f) := by
  rintro b _ ⟨blind, host, rfl, alike⟩
  obtain ⟨hhost, hregistry⟩ := hkept b
  refine ⟨rfl, ?_, host, hf b host, ?_⟩
  · change (f b).registry.Blind
    rw [hregistry]
    exact blind
  · change (f b).host.Alike host
    rw [hhost]
    exact alike

lemma stop_respects : Respects Twin (stop : Step σ Unit) := by
  apply Respects.of_get
  rintro b _ ⟨-, host, rfl, -⟩
  refine ⟨rfl, ?_⟩
  split
  · exact (record_respects _ _ _).bind fun _ =>
      modify_respects (fun _ _ => rfl) fun _ => ⟨rfl, rfl⟩
  · exact .pure ()

lemma meet_respects (r : Request) : Respects Twin (meet r : Step σ Unit) := by
  cases r with
  | stop => exact stop_respects
  | signal name => exact (record_respects _ _ _).bind fun _ => stop_respects
  | run =>
    apply Respects.of_get
    rintro b _ ⟨-, host, rfl, -⟩
    refine ⟨rfl, ?_⟩
    split
    · exact record_respects _ _ _
    · exact .pure ()

variable [Clocked σ]

lemma process_apply (e : MessageEvent) (b : Bot σ) :
    process e b =
      let done := b.processor.process e ⟨b.tracker, b.host⟩
      (done.1, { b with tracker := done.2.tracker, host := done.2.host }) := rfl

lemma process_respects (e : MessageEvent) :
    Respects Twin (process e : Step σ (Except Fault Unit)) := by
  rintro b _ ⟨blind, host, rfl, alike⟩
  obtain ⟨hresult, htracker, hhost⟩ :=
    (processor_blind blind).process e ⟨b.tracker, b.host⟩ ⟨b.tracker, host⟩ ⟨rfl, alike⟩
  rw [process_apply, process_apply]
  refine ⟨hresult, blind, _, ?_, hhost⟩
  dsimp only
  rw [htracker]
  rfl

lemma work_event (partition : Nat) (e : MessageEvent) (b : Bot σ) :
    work partition (.event e) b =
      match process e b with
      | (.error _, b) =>
        record .error "message_processing_failed" [("partition", .int partition)] b
      | (.ok (), b) => ((), b) := by
  unfold work
  dsimp only
  rw [bind_apply]
  rcases process e b with ⟨fault | _, next⟩ <;> rfl

lemma work_respects (partition : Nat) (item : QueueItem) :
    Respects Twin (work partition item : Step σ Unit) := by
  cases item with
  | stop => exact record_respects _ _ _
  | event e =>
    refine (process_respects e).bind fun result => ?_
    cases result with
    | error fault => exact record_respects _ _ _
    | ok => exact .pure ()

lemma drain_of_absent {b : Bot σ} (h : b.router = none) (partition : Nat) :
    drain partition b = ((), b) := by
  unfold drain
  rw [get_bind_apply]
  rw [h]
  rfl

lemma drain_of_present {b : Bot σ} {router : Router} (h : b.router = some router)
    (partition : Nat) :
    drain partition b = (router.queue partition).forM (work partition)
      { b with router := some (router.emptied partition) } := by
  unfold drain
  rw [get_bind_apply]
  rw [h]
  rfl

lemma drain_respects (partition : Nat) : Respects Twin (drain partition : Step σ Unit) := by
  rintro b _ ⟨blind, host, rfl, alike⟩
  rcases Option.eq_none_or_eq_some b.router with h | ⟨router, h⟩
  · rw [drain_of_absent h, drain_of_absent (b := { b with host }) h]
    exact ⟨rfl, blind, host, rfl, alike⟩
  · rw [drain_of_present h, drain_of_present (b := { b with host }) h]
    exact Respects.forM (work_respects partition) _ _ _ ⟨blind, host, rfl, alike⟩

lemma drainWoken_respects : Respects Twin (drainWoken : Step σ Unit) := by
  rintro b _ ⟨blind, host, rfl, alike⟩
  exact Respects.forM drain_respects b.woken _ _ ⟨blind, host, rfl, alike⟩

lemma takeFirst_of_none {b : Bot σ} {partition : Nat}
    (h : b.router.bind (·.take? partition) = none) : takeFirst partition b = ((), b) := by
  unfold takeFirst
  rw [get_bind_apply]
  rw [h]
  rfl

lemma takeFirst_of_some {b : Bot σ} {partition : Nat} {item : QueueItem} {router : Router}
    (h : b.router.bind (·.take? partition) = some (item, router)) :
    takeFirst partition b = work partition item { b with router := some router } := by
  unfold takeFirst
  rw [get_bind_apply]
  rw [h]
  rfl

lemma takeFirst_respects (partition : Nat) :
    Respects Twin (takeFirst partition : Step σ Unit) := by
  rintro b _ ⟨blind, host, rfl, alike⟩
  rcases Option.eq_none_or_eq_some (b.router.bind (·.take? partition)) with h | ⟨_, h⟩
  · rw [takeFirst_of_none h, takeFirst_of_none (b := { b with host }) h]
    exact ⟨rfl, blind, host, rfl, alike⟩
  · rw [takeFirst_of_some h, takeFirst_of_some (b := { b with host }) h]
    exact work_respects partition _ _ _ ⟨blind, host, rfl, alike⟩

lemma takeTurns_respects (turns : List Turn) : Respects Twin (takeTurns turns : Step σ Unit) := by
  refine .forM (fun turn => ?_) turns
  cases turn with
  | first partition => exact takeFirst_respects partition
  | woken => exact drainWoken_respects

lemma makeRoom_respects (partition : Nat) :
    Respects Twin (makeRoom partition : Step σ Unit) := by
  apply Respects.of_get
  rintro b _ ⟨-, host, rfl, -⟩
  refine ⟨rfl, ?_⟩
  split
  · exact takeFirst_respects partition
  · exact .pure ()

omit [Clocked σ] in
lemma wake_respects (partition : Nat) : Respects Twin (wake partition : Step σ Unit) := by
  unfold wake
  apply modify_respects
  · intro b host
    dsimp only
    split <;> rfl
  · intro b
    split <;> exact ⟨rfl, rfl⟩

/-- Notes that an event was routed, and how long that took. -/
def noteRouted (start : Float) (e : MessageEvent) (partition : Nat) :
    Step σ (Except Fault Unit) := do
  onHost (modify fun h =>
    { h with metrics := h.metrics.observe .dispatch [] (Clocked.now h.world - start) })
  record .debug "message_dispatched"
    [("origin", .str e.originRef.text), ("partition", .int partition)]
  return .ok ()

/-- Puts an event on its queue of an open or closed router. -/
def enqueue (blocked : List Turn) (start : Float) (e : MessageEvent) (router : Router) :
    Step σ (Except Fault Unit) :=
  match router.route e with
  | (.refused cause, _) => return .error cause.fault
  | (.routed i, router) => do
    modify fun b => { b with router := some router }
    wake i
    noteRouted start e i
  | (.blocked, _) => do
    let i := (router.partitionOf e.originRef).toOption.getD 0
    takeTurns blocked
    makeRoom i
    modify fun b => { b with router := b.router.map (·.push i (.event e)) }
    wake i
    noteRouted start e i

lemma route_of_absent {b : Bot σ} (h : b.router = none) (blocked : List Turn) (e : MessageEvent) :
    route blocked e b = (.ok (), b) := by
  unfold route
  rw [get_bind_apply]
  rw [h]
  rfl

lemma route_of_present {b : Bot σ} {router : Router} (h : b.router = some router)
    (blocked : List Turn) (e : MessageEvent) :
    route blocked e b = enqueue blocked (Clocked.now b.host.world) e router b := by
  unfold route enqueue
  rw [get_bind_apply]
  rw [h]
  dsimp only
  rw [get_bind_apply]
  rcases router.route e with ⟨_ | _ | _, next⟩ <;> rfl

lemma noteRouted_respects (start : Float) (e : MessageEvent) (partition : Nat) :
    Respects Twin (noteRouted start e partition : Step σ (Except Fault Unit)) := by
  have hobserve : ChatEngine.Blind (modify fun h : Host σ =>
      { h with metrics := h.metrics.observe .dispatch [] (Clocked.now h.world - start) }) :=
    Respects.modify fun _ _ alike => ⟨alike.world, alike.profiles⟩
  exact (onHost_respects hobserve).bind fun _ => (record_respects _ _ _).bind fun _ => .pure _

lemma enqueue_respects (blocked : List Turn) (start : Float) (e : MessageEvent) (router : Router) :
    Respects Twin (enqueue blocked start e router : Step σ (Except Fault Unit)) := by
  unfold enqueue
  have hnoted (i : Nat) :
      Respects Twin (do wake i; noteRouted start e i : Step σ (Except Fault Unit)) :=
    (wake_respects i).bind fun _ => noteRouted_respects start e i
  rcases router.route e with ⟨i | _ | cause, next⟩
  · refine Respects.bind (modify_respects ?_ ?_) fun _ => hnoted i
    · exact fun _ _ => rfl
    · exact fun _ => ⟨rfl, rfl⟩
  · refine (takeTurns_respects blocked).bind fun _ => (makeRoom_respects _).bind fun _ =>
      Respects.bind (modify_respects ?_ ?_) fun _ => hnoted _
    · exact fun _ _ => rfl
    · exact fun _ => ⟨rfl, rfl⟩
  · exact .pure _

lemma route_respects (blocked : List Turn) (e : MessageEvent) :
    Respects Twin (route blocked e : Step σ (Except Fault Unit)) := by
  rintro b _ ⟨blind, host, rfl, alike⟩
  rcases Option.eq_none_or_eq_some b.router with h | ⟨router, h⟩
  · rw [route_of_absent h, route_of_absent (b := { b with host }) h]
    exact ⟨rfl, blind, host, rfl, alike⟩
  · rw [route_of_present h, route_of_present (b := { b with host }) h, ← alike.world]
    exact enqueue_respects blocked _ e router _ _ ⟨blind, host, rfl, alike⟩

lemma handle_respects (blocked : List Turn) (event : Event) :
    Respects Twin (handle blocked event : Step σ (Except Fault Bool)) := by
  cases event with
  | message e =>
    exact (onHost_respects (.count _ _)).bind fun _ => (route_respects blocked e).bind fun _ =>
      .pure _
  | hello => exact (record_respects _ _ _).bind fun _ => .pure _
  | connected identity count =>
    refine Respects.bind (modify_respects ?_ ?_) fun _ =>
      (record_respects _ _ _).bind fun _ => .pure _
    · exact fun _ _ => rfl
    · exact fun _ => ⟨rfl, rfl⟩
  | latency ms =>
    have hset : ChatEngine.Blind (modify fun h : Host σ =>
        { h with metrics := { h.metrics with latency := Gauge.set h.metrics.latency [] ms } }) :=
      Respects.modify fun _ _ alike => ⟨alike.world, alike.profiles⟩
    exact (onHost_respects hset).bind fun _ => .pure _
  | transportError code message => exact (record_respects _ _ _).bind fun _ => .pure _
  | invalidAuth =>
    refine (record_respects _ _ _).bind fun _ => Respects.bind (modify_respects ?_ ?_) fun _ =>
      .pure _
    · exact fun _ _ => rfl
    · exact fun _ => ⟨rfl, rfl⟩
  | termination => exact (record_respects _ _ _).bind fun _ => .pure _
  | unknown typeName => exact (record_respects _ _ _).bind fun _ => .pure _

/-- Bots that differ in their metrics and log alone read a stream alike. -/
theorem dispatch_respects (pace : Pace) (steps : List StreamStep) :
    Respects Twin (dispatch pace steps : Step σ (Except Fault Unit)) := by
  induction steps generalizing pace with
  | nil => exact (record_respects _ _ _).bind fun _ => .pure _
  | cons step rest ih =>
    unfold dispatch
    apply Respects.of_get
    rintro b _ ⟨-, host, rfl, -⟩
    refine ⟨rfl, ?_⟩
    split
    · exact .pure _
    cases step with
    | broken message => exact .pure _
    | request r =>
      refine (meet_respects r).bind fun _ => Respects.of_get ?_
      rintro b _ ⟨-, host, rfl, -⟩
      refine ⟨rfl, ?_⟩
      split
      · exact .pure _
      · exact (takeTurns_respects _).bind fun _ => ih pace.next
    | event e =>
      refine (handle_respects _ e).bind fun result => ?_
      rcases result with fault | (_ | _)
      · exact .pure _
      · exact .pure _
      · exact (takeTurns_respects _).bind fun _ => ih pace.next

end Bot

end ChatEngine
