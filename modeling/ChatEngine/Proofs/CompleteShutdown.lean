import ChatEngine.Proofs.HandedMessages

/-!
# Complete shutdown

How a run of a bot ends. Serving leaves a bot in one of few ways (`Bot.Served`): it could not connect,
had no router or could not start, and then no message came; or it read the stream, and then the messages
that were heard were handed over or wait. Shutting down hands over what still waits, before it releases
the resources and disconnects. So a run of a fresh bot (`Bot.Fresh`) that nobody stops takes its acts
in that order, whichever of them fail.
-/

namespace ChatEngine

/-- Whether the schedule of an action has a trigger. -/
def ScheduledAction.startable {σ : Type} (action : ScheduledAction σ) : Bool :=
  (Trigger.start action.schedule Scheduler.startTime).isOk

namespace Bot.Traced

section
variable {σ : Type} [Clocked σ]

/-! ### Starting -/

omit [Clocked σ] in
lemma announce_frame (b : Bot σ) : ∃ host, announce b = ((), { b with host }) := by
  unfold announce
  rw [get_bind_apply]
  split <;> exact ⟨_, rfl⟩

omit [Clocked σ] in
lemma startWorkers_frame (b : Bot σ) : ∃ host, startWorkers b = ((), { b with host }) := by
  have hrecords (partitions : List Nat) (b : Bot σ) :
      ∃ host, (partitions.forM fun _ => record .debug "worker_started" : Step σ Unit) b =
        ((), { b with host }) := by
    induction partitions generalizing b with
    | nil => exact ⟨b.host, rfl⟩
    | cons _ rest ih => exact ih (record .debug "worker_started" [] b).2
  exact hrecords _ b

lemma listen_hands {b : Bot σ} {r : Router} (trusted : b.invalidAuth = false)
    (h : b.router = some r) (sized : r.Sized) (isOpen : r.closed = false) (script : RunScript)
    {deaf : Bool} (hdeaf : b.deaf = deaf) :
    ∃ result went tracker host woken identity stopping r',
      Hands (listen script) b result went
        { b with tracker, host, woken, identity, stopping, dispatcher := .finished
                 invalidAuth := (met deaf script.stream).any Event.rejects, router := some r' } ∧
      r.Passage r' ((met deaf script.stream).filterMap Event.routed?) went := by
  subst hdeaf
  obtain ⟨host, hannounce⟩ := announce_frame b
  obtain ⟨host', hworkers⟩ := startWorkers_frame { b with host, dispatcher := .reading }
  obtain ⟨result, went, tracker, host, woken, identity, stopping, dispatcher, r', hdispatch,
    hpassage⟩ := Reads.dispatch (b := { b with host := host', dispatcher := .reading })
      ⟨rfl, trusted, h, sized, isOpen⟩ script.pace script.stream
  obtain ⟨went', tracker', host', woken', r'', hturns, hpassage'⟩ := takeTurns_hands script.pace.ended
    (b := { b with tracker, host, woken, identity, stopping, dispatcher
                   invalidAuth := (met b.deaf script.stream).any Event.rejects
                   router := some r' }) rfl
  have hboth := hpassage.trans hpassage'
  rw [List.append_nil] at hboth
  rw [← List.append_nil went'] at hboth
  exact ⟨result, went ++ (went' ++ []), tracker', host', woken', identity, stopping, r'',
    .next hannounce (.after (.next hworkers (hdispatch.bind (hturns.bind (.after (.pure _ _)))))),
    hboth⟩

omit [Clocked σ] in
lemma register_failure (entries jobs : List (RegisteredSchedule σ)) (h : Host σ) :
    (Scheduler.register entries jobs h).1.2 = none ↔ entries.all (·.action.startable) = true := by
  induction entries generalizing jobs h with
  | nil => exact iff_of_true rfl rfl
  | cons entry rest ih =>
    unfold Scheduler.register
    rw [List.all_cons, ScheduledAction.startable]
    cases Trigger.start entry.action.schedule Scheduler.startTime with
    | error e => exact iff_of_false nofun Bool.false_ne_true
    | ok trigger => exact ih _ _

omit [Clocked σ] in
lemma start_failure (actions : List (RegisteredSchedule σ)) (h : Host σ) :
    (Scheduler.start { actions } h).1.2 = none ↔ actions.all (·.action.startable) = true := by
  rw [← register_failure actions [] h]
  change ((Scheduler.register actions [] >>= fun _ => _ :
    StateM (Host σ) (Scheduler σ × Option Scheduler.StartError)) h).1.2 = none ↔ _
  rw [bind_apply]
  rcases (Scheduler.register actions [] h).1 with ⟨jobs, _ | e⟩
  · exact iff_of_true rfl rfl
  · exact iff_of_false nofun nofun

end

end Bot.Traced

/-! ### Serving -/

namespace Bot

variable {σ : Type}

/-- Whether no schedule stands in the way of a start. -/
def schedulable (b : Bot σ) : Bool :=
  b.registry.schedules.all (·.action.startable)

/-- Whether there can be a router for the configured partitions: their number is a power of two, and
a queue holds something. -/
def routable (b : Bot σ) : Bool :=
  isPowerOfTwo b.config.messagePartitionCount && decide (1 ≤ b.config.messageQueueBufferSize)

/-- Whether a run of the bot gets to reading the stream: it connects, there is a router, and no
schedule stands in the way. -/
def starts (b : Bot σ) : Bool :=
  (b.given.connect.run b.host.world).1.isOk && b.routable && b.schedulable

/-- The messages that wait for a worker. -/
def waiting (b : Bot σ) : List MessageEvent := (b.router.map Router.waiting).getD []

lemma routable_eq (b : Bot σ) :
    b.routable =
      (Router.create? b.config.messagePartitionCount b.config.messageQueueBufferSize).isOk := by
  unfold routable Router.create?
  cases isPowerOfTwo b.config.messagePartitionCount with
  | false => rfl
  | true =>
    by_cases hbuffer : b.config.messageQueueBufferSize < 1
    · rw [decide_eq_false (Int.not_le.mpr hbuffer), if_neg nofun, if_pos hbuffer]
      rfl
    · rw [decide_eq_true (Int.not_lt.mp hbuffer), if_neg nofun, if_neg hbuffer]
      rfl

lemma startScheduler_frame (b : Bot σ) :
    ∃ failure host scheduler, startScheduler b = (failure, { b with host, scheduler }) ∧
      (failure = none ↔ b.schedulable = true) :=
  ⟨_, _, _, rfl, Traced.start_failure b.registry.schedules b.host⟩

/-- A bot whose messages are all left to workers, if any wait; and whether its workers have begun. -/
structure Staffed (b : Bot σ) (begun : Bool) : Prop where
  routed : b.working = true → b.router.isSome = true
  unheard : b.working = false → b.waiting = []
  working : begun = true → b.working = true

/-- What is not handed over stays with the workers. -/
lemma Staffed.of_kept {begun : Bool} {b : Bot σ} (staffed : b.Staffed begun)
    {went : List MessageEvent} {router : Option Router} (hsome : router.isSome = b.router.isSome)
    (hkept : (went ++ (router.map Router.waiting).getD []).Perm b.waiting)
    (tracker : ResponseTracker) (host : Host σ) (woken : List Nat) :
    ({ b with tracker, host, woken, router } : Bot σ).Staffed begun where
  routed hworking := hsome.trans (staffed.routed hworking)
  unheard hworking := by
    rw [staffed.unheard hworking] at hkept
    exact (List.append_eq_nil_iff.mp hkept.eq_nil).2
  working := staffed.working

/-- A bot that does not run, and with which no message waits. -/
structure Rested (b : Bot σ) : Prop where
  resting : b.running = false
  unread : b.dispatcher ≠ .reading
  unheard : b.waiting = []
  unstaffed : b.working = false

/-- How serving leaves a bot that got to reading the stream, or did not; and what it handed over on
the way. -/
structure Served (after : Bot σ) (begun : Bool) (closers : List (Closer σ))
    (started rejected : Bool) (messages went : List MessageEvent) : Prop where
  idle : after.dispatcher ≠ .reading
  closers : after.closers = closers
  auth : after.invalidAuth = (started && rejected)
  staffed : after.Staffed begun
  kept : (went ++ after.waiting).Perm (if started then messages else [])

/-- A bot that does not get to reading has handed nothing over, and nothing waits. -/
lemma Served.of_failed {after : Bot σ} {closers : List (Closer σ)} {started : Bool}
    (rejected : Bool) (messages : List MessageEvent) (idle : after.dispatcher ≠ .reading)
    (hclosers : after.closers = closers) (trusted : after.invalidAuth = false)
    (staffed : after.Staffed false) (unheard : after.waiting = []) (failed : started = false) :
    Served after false closers started rejected messages [] where
  idle := idle
  closers := hclosers
  auth := by rw [trusted, failed]; rfl
  staffed := staffed
  kept := by rw [unheard, failed]; rfl

/-- A bot that is not served yet. -/
structure Idle (b : Bot σ) : Prop where
  unread : b.dispatcher ≠ .reading
  trusted : b.invalidAuth = false
  unheard : b.waiting = []
  unstaffed : b.working = false

namespace Idle

variable {b : Bot σ}

lemma staffed (idle : b.Idle) : b.Staffed false where
  routed hworking := by
    rw [idle.unstaffed] at hworking
    cases hworking
  unheard _ := idle.unheard
  working := nofun

lemma of_frame (idle : b.Idle) (host : Host σ) (stopping : Bool) :
    ({ b with host, stopping } : Bot σ).Idle :=
  ⟨idle.unread, idle.trusted, idle.unheard, idle.unstaffed⟩

end Idle

namespace Traced

variable [Clocked σ]

lemma serveRouted_hands {b : Bot σ} (idle : b.Idle) {router : Router} (sized : router.Sized)
    (isOpen : router.closed = false) (empty : ∀ i, router.queue i = []) (script : RunScript)
    {deaf : Bool} (hdeaf : (b.deaf || script.whileStarting.any Request.stops) = deaf) :
    ∃ result begun went after,
      Hands (serveRouted script router) b (result, begun) went after ∧
        Served after begun b.closers b.schedulable ((met deaf script.stream).any Event.rejects)
          ((met deaf script.stream).filterMap Event.routed?) went := by
  have hwaiting := Router.waiting_of_empty empty
  obtain ⟨host, stopping, hmeet, -, hasked⟩ := meetAll_frame
    (b := { b with router := some router, working := true }) idle.unread script.whileStarting
  obtain ⟨failure, host, scheduler, hstart, hfailure⟩ :=
    startScheduler_frame { b with router := some router, working := true, host, stopping }
  cases failure with
  | some e =>
    exact ⟨.error e.fault, false, [], _, .after (.next hmeet (.next hstart (.pure _ _))),
      .of_failed _ _ idle.unread rfl idle.trusted ⟨fun _ => rfl, nofun, nofun⟩ hwaiting
        (Bool.eq_false_iff.mpr fun h => nomatch hfailure.mpr h)⟩
  | none =>
    have hschedulable : b.schedulable = true := hfailure.mp rfl
    obtain ⟨result, went, tracker, host, woken, identity, stopping, router', hlisten, hpassage⟩ :=
      listen_hands (b := { b with host, stopping, scheduler, router := some router, working := true })
        idle.trusted rfl sized isOpen script (hasked.trans hdeaf)
    refine ⟨result, true, went ++ [], _,
      .after (.next hmeet (.next hstart (hlisten.bind (.pure _ _)))), nofun, rfl, ?_,
      ⟨fun _ => rfl, nofun, fun _ => rfl⟩, ?_⟩
    · rw [hschedulable]
      rfl
    · -- Nothing waited in the new router, so what was handed over or waits came from the stream.
      have hkept := hpassage.kept
      rw [hwaiting] at hkept
      rw [List.append_nil, hschedulable]
      exact hkept

lemma serveConnected_hands {b : Bot σ} (idle : b.Idle) (script : RunScript)
    {deaf : Bool} (hdeaf : (b.deaf || script.whileStarting.any Request.stops) = deaf) :
    ∃ result begun went after,
      Hands (serveConnected script) b (result, begun) went after ∧
        Served after begun b.closers (b.routable && b.schedulable)
          ((met deaf script.stream).any Event.rejects)
          ((met deaf script.stream).filterMap Event.routed?) went := by
  obtain ⟨host, hrecord⟩ : ∃ host, record .info "chat_connected" [] b = ((), { b with host }) :=
    ⟨_, rfl⟩
  cases hcreate : Router.create? b.config.messagePartitionCount b.config.messageQueueBufferSize with
  | error cause =>
    have hfailed : b.routable = false := by rw [routable_eq, hcreate]; rfl
    refine ⟨.error cause.fault, false, [], { b with host }, .next hrecord (.look ?_),
      .of_failed _ _ idle.unread rfl idle.trusted (idle.of_frame host b.stopping).staffed
        idle.unheard ?_⟩
    · dsimp only
      rw [hcreate]
      exact .pure _ _
    · rw [hfailed]
      rfl
  | ok router =>
    have hroutable : b.routable = true := by rw [routable_eq, hcreate]; rfl
    obtain ⟨sized, isOpen, empty, -⟩ := Router.create?_cases hcreate
    obtain ⟨result, begun, went, after, hrouted, hserved⟩ := serveRouted_hands
      (idle.of_frame host b.stopping) sized isOpen empty script hdeaf
    rw [hroutable]
    refine ⟨result, begun, went, after, .next hrecord (.look ?_), hserved⟩
    dsimp only
    rw [hcreate]
    exact hrouted

lemma connect_frame (b : Bot σ) : ∃ host, Act.connect.step b =
    ((b.given.connect.run b.host.world).1, { b with host }) := ⟨_, rfl⟩

/-- Serving connects first and then hands over messages that it met. -/
lemma serve_script_does {b : Bot σ} (idle : b.Idle) (script : RunScript) :
    let deaf := b.deaf || (script.whileConnecting ++ script.whileStarting).any Request.stops
    ∃ result begun went after,
      Does (serve script) b (result, begun) (.connect :: went.map .process) after ∧
        Served after begun b.closers b.starts ((met deaf script.stream).any Event.rejects)
          ((met deaf script.stream).filterMap Event.routed?) went := by
  intro deaf
  obtain ⟨host, stopping, hmeet, hworld, hasked⟩ :=
    meetAll_frame idle.unread script.whileConnecting
  have hmet := Does.plain (meetAll script.whileConnecting) b
  rw [hmeet] at hmet
  obtain ⟨host', hframe⟩ := connect_frame { b with host, stopping }
  dsimp only at hframe
  rw [hworld] at hframe
  have hconnect := Does.act .connect { b with host, stopping }
  rw [hframe] at hconnect
  unfold starts
  cases hanswer : (b.given.connect.run b.host.world).1 with
  | error fault =>
    rw [hanswer] at hconnect
    exact ⟨.error fault, false, [], _, hmet.bind (hconnect.bind (.pure _ _)),
      .of_failed _ _ idle.unread rfl idle.trusted (idle.of_frame host' stopping).staffed
        idle.unheard rfl⟩
  | ok =>
    rw [hanswer] at hconnect
    have hasked' : (b.deaf || script.whileConnecting.any Request.stops ||
        script.whileStarting.any Request.stops) = deaf := by
      rw [Bool.or_assoc, ← List.any_append]
    rw [← hasked] at hasked'
    obtain ⟨result, begun, went, after, hrest, hserved⟩ := serveConnected_hands
      (idle.of_frame host' stopping) script hasked'
    exact ⟨result, begun, went, after, hmet.bind (hconnect.bind hrest), hserved⟩

/-! ### Shutting down -/

/-- What a shutdown does once it has met the requests that come while stopping. -/
def windUp (pace : Pace) (begun : Bool) : Traced σ Unit := do
  plain cease
  linger pace.unmarked begun
  closeRouter
  finish pace.marked begun
  leave

/-- What workers hand over before the queues get their end marks had waited. -/
lemma linger_hands (turns : List Turn) {begun : Bool} {b : Bot σ} (staffed : b.Staffed begun) :
    ∃ went tracker host woken router, Hands (linger turns begun) b () went
        { b with tracker, host, woken, router } ∧ router.isSome = b.router.isSome ∧
      (went ++ (router.map Router.waiting).getD []).Perm b.waiting := by
  cases begun with
  | false => exact ⟨[], b.tracker, b.host, b.woken, b.router, .pure _ b, rfl, .refl _⟩
  | true =>
    obtain ⟨r, hrouter⟩ := Option.isSome_iff_exists.mp (staffed.routed (staffed.working rfl))
    obtain ⟨went, tracker, host, woken, r', hturns, hpassage⟩ := takeTurns_hands turns hrouter
    have hkept := hpassage.kept
    rw [List.append_nil] at hkept
    unfold waiting
    rw [hrouter]
    exact ⟨went, tracker, host, woken, some r', hturns, rfl, hkept⟩

lemma closeRouter_hands (b : Bot σ) :
    ∃ went tracker host router, Hands closeRouter b () went { b with tracker, host, router } ∧
      router.isSome = b.router.isSome ∧
      (went ++ (router.map Router.waiting).getD []).Perm b.waiting := by
  unfold waiting
  cases hrouter : b.router with
  | none =>
    have hsame : ({ b with router := none } : Bot σ) = b := by rw [← hrouter]
    refine ⟨[], b.tracker, b.host, none, .look ?_, rfl, .refl _⟩
    rw [hrouter, hsame]
    exact .pure _ b
  | some r =>
    cases hnext : r.close? with
    | some closed =>
      refine ⟨[], b.tracker, b.host, some closed, .look ?_, rfl,
        .of_eq (Router.waiting_close? hnext)⟩
      rw [hrouter]
      dsimp only
      rw [hnext]
      exact .plain _ b
    | none =>
      -- Some queue has no room for its mark, so all workers do their queues before it is set.
      obtain ⟨went, tracker, host, r', hdrain, hperm, hwaiting⟩ := drainAll_hands hrouter
      refine ⟨went ++ [], tracker, host, some (r'.close?.getD r'), .look ?_, rfl, ?_⟩
      · rw [hrouter]
        dsimp only
        rw [hnext]
        exact hdrain.bind (.plain _ _)
      have hclosed : (r'.close?.getD r').waiting = [] := by
        cases hnext' : r'.close? with
        | none => exact hwaiting
        | some closed => exact (Router.waiting_close? hnext').trans hwaiting
      change (went ++ [] ++ (r'.close?.getD r').waiting).Perm r.waiting
      rwa [hclosed, List.append_nil, List.append_nil]

lemma complete_hands (turns : List Turn) (begun : Bool) {b : Bot σ} {r : Router}
    (h : b.router = some r) :
    ∃ went tracker host woken r', Hands (complete turns begun) b () went
        { b with tracker, host, woken, router := some r' } ∧ went.Perm r.waiting ∧
      r'.waiting = [] := by
  cases begun with
  | true =>
    obtain ⟨went, tracker, host, woken, r', hturns, hpassage⟩ := takeTurns_hands turns h
    obtain ⟨went', tracker', host', r'', hdrain, hperm, hwaiting⟩ := drainAll_hands
      (b := { b with tracker, host, woken, router := some r' }) rfl
    have hkept := (hperm.append_left went).trans hpassage.kept
    rw [List.append_nil] at hkept
    exact ⟨went ++ went', tracker', host', woken, r'', hturns.bind hdrain, hkept, hwaiting⟩
  | false =>
    obtain ⟨went, tracker, host, r', hdrain, hkept⟩ := startAndDrain_hands h
    exact ⟨went, tracker, host, b.woken, r', hdrain, hkept⟩

/-- Workers that finish leave nothing that waits. -/
lemma finish_hands (turns : List Turn) {begun : Bool} {b : Bot σ} (staffed : b.Staffed begun) :
    ∃ went tracker host woken router, Hands (finish turns begun) b () went
        { b with tracker, host, woken, router, working := false } ∧ went.Perm b.waiting ∧
      (router.map Router.waiting).getD [] = [] := by
  cases hworking : b.working with
  | false =>
    have hwaiting := staffed.unheard hworking
    refine ⟨[], b.tracker, b.host, b.woken, b.router, .look ?_, by rw [hwaiting], hwaiting⟩
    rw [if_neg (Bool.eq_false_iff.mp hworking), ← hworking]
    exact .pure _ b
  | true =>
    obtain ⟨r, hrouter⟩ := Option.isSome_iff_exists.mp (staffed.routed hworking)
    obtain ⟨went, tracker, host, woken, r', hcomplete, hperm, hwaiting⟩ :=
      complete_hands turns begun hrouter
    have hbefore : b.waiting = r.waiting := by
      rw [waiting, hrouter]
      rfl
    refine ⟨went ++ [], tracker, host, woken, some r', .look ?_, ?_, hwaiting⟩
    · rw [if_pos hworking]
      exact hcomplete.bind (.plain _ _)
    · rwa [List.append_nil, hbefore]

lemma runClosers_does (closers : List (Closer σ)) (b : Bot σ) :
    ∃ host, Does (runClosers closers) b () (closers.map .close) { b with host } := by
  induction closers generalizing b with
  | nil => exact ⟨b.host, .pure _ b⟩
  | cons c rest ih =>
    have hclose := Does.act (.close c) b
    cases hresult : ((Act.close c).step b).1 with
    | error fault =>
      rw [hresult] at hclose
      obtain ⟨host, hrest⟩ :=
        ih (record .error "closer_failed" [("closer", .str c.name)] ((Act.close c).step b).2).2
      exact ⟨host, hclose.bind ((Does.plain _ _).bind hrest)⟩
    | ok =>
      rw [hresult] at hclose
      obtain ⟨host, hrest⟩ := ih ((Act.close c).step b).2
      exact ⟨host, hclose.bind hrest⟩

lemma hangUp_does (b : Bot σ) : ∃ host, Does hangUp b () [.disconnect] { b with host } := by
  have hdisconnect := Does.act .disconnect b
  cases hresult : (Act.disconnect.step b).1 with
  | error fault =>
    rw [hresult] at hdisconnect
    exact ⟨_, hdisconnect.bind (.plain _ _)⟩
  | ok =>
    rw [hresult] at hdisconnect
    exact ⟨_, hdisconnect.bind (.plain _ _)⟩

lemma leave_does (b : Bot σ) :
    ∃ host scheduler, Does leave b () (b.closers.reverse.map .close ++ [.disconnect])
      { b with host, scheduler, running := false } := by
  let unscheduled : Bot σ := { b with scheduler := b.scheduler.map Scheduler.shutdown }
  obtain ⟨host, hclosers⟩ := runClosers_does b.closers.reverse unscheduled
  obtain ⟨host', hhangUp⟩ := hangUp_does { unscheduled with host }
  exact ⟨_, _, (Does.plain _ b).bind ((Does.plain _ _).bind (hclosers.bind (hhangUp.bind
    ((Does.plain _ _).bind ((Does.plain _ _).bind (.plain _ _))))))⟩

/-- Winding up hands over what waits, then releases the resources, then disconnects. -/
lemma windUp_does (pace : Pace) {begun : Bool} {b : Bot σ} (idle : b.dispatcher ≠ .reading)
    (staffed : b.Staffed begun) :
    ∃ (went : List MessageEvent) (after : Bot σ), Does (windUp pace begun) b ()
        (went.map .process ++ (b.closers.reverse.map .close ++ [.disconnect])) after ∧
      went.Perm b.waiting ∧ after.Rested ∧ after.invalidAuth = b.invalidAuth := by
  have hidle : cease b = ((), b) := by
    unfold cease
    rw [get_bind_apply, if_neg idle]
    rfl
  have hcease := Does.plain cease b
  rw [hidle] at hcease
  -- Some of what waits is handed over before the queues are marked; the workers that finish hand
  -- over the rest.
  obtain ⟨went, tracker, host, woken, router, hlinger, hsome, hkept⟩ :=
    linger_hands pace.unmarked staffed
  have hstaffed := staffed.of_kept hsome hkept tracker host woken
  obtain ⟨went', tracker, host, router', hclose, hsome', hkept'⟩ := closeRouter_hands
    { b with tracker, host, woken, router }
  have hstaffed' := hstaffed.of_kept hsome' hkept' tracker host woken
  obtain ⟨went'', tracker, host, woken, router'', hfinish, hperm, hwaiting⟩ :=
    finish_hands pace.marked hstaffed'
  obtain ⟨host', scheduler, hleave⟩ := leave_does
    { b with tracker, host, woken, router := router'', working := false }
  refine ⟨went ++ (went' ++ went''), { b with tracker, host := host', woken, router := router''
                                              working := false, scheduler, running := false }, ?_,
    ((hperm.append_left went').trans hkept').append_left went |>.trans hkept,
    ⟨rfl, idle, hwaiting, rfl⟩, rfl⟩
  rw [List.map_append, List.map_append, List.append_assoc, List.append_assoc]
  exact hcease.bind (Does.bind hlinger (Does.bind hclose (Does.bind hfinish hleave)))

/-- Requests make no difference to a shutdown. -/
lemma shutdown_rests (script : RunScript) {begun : Bool} {b : Bot σ}
    (idle : b.dispatcher ≠ .reading) (staffed : b.Staffed begun) :
    ∃ (went : List MessageEvent) (after : Bot σ), Does (shutdown script begun) b ()
        (went.map .process ++ (b.closers.reverse.map .close ++ [.disconnect])) after ∧
      went.Perm b.waiting ∧ after.Rested ∧ after.invalidAuth = b.invalidAuth := by
  let recorded : Bot σ := (record .debug "bot_shutting_down" [] b).2
  obtain ⟨host, stopping, hmeet, -, -⟩ :=
    meetAll_frame (show recorded.dispatcher ≠ .reading from idle) script.whileStopping
  obtain ⟨went, after, hwindUp, hrest⟩ := windUp_does script.pace
    (b := { recorded with host, stopping }) idle
    ⟨staffed.routed, staffed.unheard, staffed.working⟩
  have hmet := Does.plain (meetAll script.whileStopping) recorded
  rw [hmeet] at hmet
  exact ⟨went, after, (Does.plain _ b).bind (hmet.bind hwindUp), hrest⟩

end Traced

/-! ### Runs -/

/-- A bot that has not run yet. -/
structure Fresh (b : Bot σ) : Prop where
  resting : b.running = false
  unread : b.dispatcher = .absent
  unrouted : b.router = none
  unstaffed : b.working = false

lemma Fresh.rested {b : Bot σ} (fresh : b.Fresh) : b.Rested where
  resting := fresh.resting
  unread := by
    rw [fresh.unread]
    nofun
  unheard := by
    rw [waiting, fresh.unrouted]
    rfl
  unstaffed := fresh.unstaffed

end Bot

lemma Plugin.schedules_eq (p : Plugin σ) :
    p.registeredSchedules.map (·.action) = p.scheduledActions := by
  unfold Plugin.registeredSchedules
  rw [List.map_map]
  exact List.zipIdx_map_fst 0 p.scheduledActions

namespace PluginRegistry

lemma schedules_eq (r : PluginRegistry σ) :
    r.schedules.map (·.action) = r.close.all.flatMap (·.scheduledActions) := by
  unfold schedules
  rw [List.map_flatMap]
  exact congrArg (r.close.all.flatMap ·) (funext Plugin.schedules_eq)

/-- Closing a registry and giving its plugins their services changes no schedule. -/
lemma schedules_inject (r : PluginRegistry σ) (services : Plugin σ → Services (Host σ)) :
    (r.close.inject services).schedules.map (·.action) = r.schedules.map (·.action) := by
  have hsealed : (r.close.inject services).isSealed = true := r.close_isSealed
  rw [schedules_eq, schedules_eq, close_of_sealed hsealed]
  unfold all inject
  rw [List.flatMap_append, List.flatMap_append, List.flatMap_map]

end PluginRegistry

namespace Bot

lemma schedulable_eq (b : Bot σ) :
    b.schedulable = (b.registry.schedules.map (·.action)).all (·.startable) := by
  rw [List.all_map]
  rfl

variable [Clocked σ]

/-- The bot that a run serves. -/
def entered (b : Bot σ) : Bot σ :=
  let starting := (record .info "bot_starting"
    [("name", b.name.value), ("partitions", .int b.config.messagePartitionCount),
     ("plugins", .list (b.registry.plugins.map fun p => .str p.name))] b).2
  { starting with
    registry := starting.registry.close.inject starting.services
    host := { starting.host with profiles := profileCache starting.config.userInfoCacheSize }
    running := true
    stopping := false
    invalidAuth := false }

lemma entered_starts (b : Bot σ) : b.entered.starts = b.starts := by
  have hschedulable : b.entered.schedulable = b.schedulable := by
    rw [schedulable_eq, schedulable_eq]
    exact congrArg (List.all · _) (b.registry.schedules_inject b.services)
  unfold starts
  rw [hschedulable]
  rfl

lemma Rested.entered_idle {b : Bot σ} (rested : b.Rested) : b.entered.Idle where
  unread := rested.unread
  trusted := rfl
  unheard := rested.unheard
  unstaffed := rested.unstaffed

/-- What a run does: it connects, hands over the messages that it meets, releases the resources and
disconnects, whatever is asked of it. -/
lemma Rested.run_does {b : Bot σ} (rested : b.Rested) (script : RunScript) :
    let deaf := (script.whileConnecting ++ script.whileStarting).any Request.stops
    ∃ (result : Except Fault Unit) (handed : List MessageEvent) (after : Bot σ),
      Traced.Does (Traced.run script) b result
        (.connect :: handed.map .process ++ b.closers.reverse.map .close ++ [.disconnect]) after ∧
      handed.Perm (if b.starts then (met deaf script.stream).filterMap Event.routed? else []) ∧
      after.Rested ∧
      after.invalidAuth = (b.starts && (met deaf script.stream).any Event.rejects) := by
  intro deaf
  obtain ⟨result, begun, went, served, hserve, hserved⟩ :=
    Traced.serve_script_does rested.entered_idle script
  obtain ⟨went', after, hshutdown, hperm, hafter, hauth⟩ :=
    Traced.shutdown_rests script hserved.idle hserved.staffed
  refine ⟨result, went ++ went', after, ?_, ?_, hafter, ?_⟩
  · rw [List.map_append, ← List.cons_append, List.append_assoc, List.append_assoc,
      ← show served.closers = b.closers from hserved.closers]
    refine (Traced.Does.plain get b).bind ?_
    change Traced.Does (if b.running = true then _ else _) b _ _ _
    rw [if_neg (Bool.eq_false_iff.mp rested.resting)]
    have hshut := hshutdown.bind (f := fun _ => pure result) (.pure result after)
    rw [List.append_nil] at hshut
    exact (Traced.Does.plain _ b).bind ((Traced.Does.plain _ _).bind (hserve.bind hshut))
  · rw [← entered_starts]
    exact (hperm.append_left went).trans hserved.kept
  · rw [hauth, hserved.auth, entered_starts]
    rfl

end Bot

namespace Echo
open Simulation

/-- A resource that is released without trouble. -/
def lamp : Closer Workspace := ⟨"lamp", pure ()⟩

/-- A resource that cannot be released. -/
def door : Closer Workspace := ⟨"door", .ofResult (.error (.runtime "stuck"))⟩

def sleeper : Bot Workspace where
  name := none
  config := { token := "t", messagePartitionCount := 2 }
  given := { driver := Workspace.driver, disconnect := .ofResult (.error (.runtime "gone")) }
  registry := registry
  closers := [lamp, door]
  tracker := ⟨{ capacity := 1 }⟩
  host := { world := {} }

/-- Greetings before and after the credentials are rejected. -/
def day : List Event :=
  [.hello, .message (said "91" "hi"), .invalidAuth, .message (said "92" "hi"), .termination]

end Echo

end ChatEngine
