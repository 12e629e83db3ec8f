import ChatEngine.Proofs.CompleteShutdown

/-!
# Heeded stops

What a request to stop does to a run. While the stream is read, the first one is heeded: what comes
after it in the stream is not even looked at. A bot that is asked before it reads, while it connects or
starts, only remembers that it was asked, and from then on is deaf to every further request: it handles
its stream as if nobody had asked. Requests during the shutdown make no difference.

A run looks at its stream in one place only (`Consults`), where it meets the stream (`met`).
-/

namespace ChatEngine

/-! ### Streams with requests -/

/-- A stream without the requests. -/
def unasked : List StreamStep → List StreamStep
  | [] => []
  | .request _ :: rest => unasked rest
  | .broken message :: rest => .broken message :: unasked rest
  | .event e :: rest => .event e :: unasked rest

lemma met_stop {request : Request} (stops : request.stops = true) (before later : List StreamStep) :
    met false (before ++ .request request :: later) = met false before := by
  induction before with
  | nil =>
    change (if request.stops && !false then [] else met false later) = []
    rw [stops]
    rfl
  | cons step rest ih =>
    rw [List.cons_append]
    cases step with
    | broken message => rfl
    | request other => rw [met, met, ih]
    | event event => rw [met, met, ih]

lemma met_unasked (steps : List StreamStep) : met true steps = met false (unasked steps) := by
  induction steps with
  | nil => rfl
  | cons step rest ih =>
    cases step with
    | broken message => rfl
    | request request =>
      rw [met, unasked, Bool.not_true, Bool.and_false, if_neg Bool.false_ne_true, ih]
    | event event => rw [met, unasked, met, ih]

namespace Bot

variable {σ α β : Type} [Clocked σ]

/-! ### Reading up to a stop -/

namespace Traced

variable {b : Bot σ} {r : Router}

/-- Nothing that comes after a request to stop is looked at by a bot that heeds it. -/
lemma Reads.dispatch_stop (h : Reads b r) (heeds : b.deaf = false) (pace : Pace)
    {request : Request} (stops : request.stops = true) (before later : List StreamStep) :
    Bot.dispatch pace (before ++ .request request :: later) b =
      Bot.dispatch pace (before ++ [.request request]) b := by
  induction before generalizing b r pace with
  | nil =>
    rw [List.nil_append, List.nil_append, dispatch_request h.going, dispatch_request h.going]
    rcases h.meet_cases request with ⟨-, host, hmeet⟩ | ⟨ignores, -⟩
    · rw [hmeet, if_pos rfl, if_pos rfl]
    · rw [stops, heeds] at ignores
      cases ignores
  | cons step rest ih =>
    rw [List.cons_append, List.cons_append]
    cases step with
    | broken message => rfl
    | request other =>
      rw [dispatch_request h.going, dispatch_request h.going]
      rcases h.meet_cases other with ⟨-, host, hmeet⟩ | ⟨-, host, hmeet, hreads⟩
      · rw [hmeet, if_pos rfl, if_pos rfl]
      · obtain ⟨went, tracker, host, woken, r', hturns, hreads, -⟩ :=
          hreads.takeTurns (pace.between 0)
        rw [hmeet]
        dsimp only
        rw [Does.mirrored hturns (takeTurns_mirrors _), ih hreads heeds]
    | event event =>
      -- Either the event ends reading in both streams, or both go on from one and the same bot.
      rw [dispatch_event h.going, dispatch_event h.going]
      cases hgoesOn : event.goesOn with
      | false =>
        obtain ⟨result, went, tracker, host, woken, identity, r', hhandle, -, hgoes⟩ :=
          h.handle (pace.blocked 0) event
        rw [hgoesOn] at hgoes
        rw [Does.mirrored hhandle (handle_mirrors _ event)]
        rcases result with fault | _ | _
        · rfl
        · rfl
        · cases hgoes.mp rfl
      | true =>
        obtain ⟨went, went', handled, tracker, host, woken, identity, r', hhandle, hturns, hreads,
          -⟩ := h.goOn hgoesOn (pace.blocked 0) (pace.between 0)
        rw [Does.mirrored hhandle (handle_mirrors _ event)]
        dsimp only
        rw [Does.mirrored hturns (takeTurns_mirrors _)]
        exact ih hreads heeds pace.next

end Traced

/-! ### Where a run looks at its stream -/

/-- Whether what a stage of a run does with a stream is to read it at a certain bot, if anything. -/
def Consults (stage : List StreamStep → Step σ α) (pace : Pace) (deaf : Bool) (b : Bot σ) : Prop :=
  (∃ done : α × Bot σ, ∀ steps, stage steps b = done) ∨
    ∃ (reader : Bot σ) (r : Router) (finish : Except Fault Unit × Bot σ → α × Bot σ),
      Traced.Reads reader r ∧ reader.deaf = deaf ∧
        ∀ steps, stage steps b = finish (dispatch pace steps reader)

namespace Consults

variable {pace : Pace} {deaf : Bool} {b : Bot σ}

lemma const (step : Step σ α) : Consults (fun _ => step) pace deaf b := .inl ⟨_, fun _ => rfl⟩

lemma dispatch (pace : Pace) {r : Router} (reads : Traced.Reads b r) (hdeaf : b.deaf = deaf) :
    Consults (Bot.dispatch pace) pace deaf b :=
  .inr ⟨b, r, id, reads, hdeaf, fun _ => rfl⟩

lemma bind {stage : List StreamStep → Step σ α} (h : Consults stage pace deaf b)
    (next : α → Step σ β) : Consults (fun steps => stage steps >>= next) pace deaf b := by
  rcases h with ⟨done, hdone⟩ | ⟨reader, r, finish, reads, hdeaf, hstage⟩
  · refine .inl ⟨next done.1 done.2, fun steps => ?_⟩
    change next (stage steps b).1 (stage steps b).2 = _
    rw [hdone]
  · refine .inr ⟨reader, r, fun read => next (finish read).1 (finish read).2, reads, hdeaf, ?_⟩
    intro steps
    change next (stage steps b).1 (stage steps b).2 = _
    rw [hstage]

lemma after {first : Step σ α} {stage : α → List StreamStep → Step σ β} {a : α} {b' : Bot σ}
    (hfirst : first b = (a, b')) (h : Consults (stage a) pace deaf b') :
    Consults (fun steps => first >>= fun a => stage a steps) pace deaf b := by
  have hrun : ∀ steps, (first >>= fun a => stage a steps) b = stage a steps b' := by
    intro steps
    rw [bind_apply, hfirst]
  rcases h with ⟨done, hdone⟩ | ⟨reader, r, finish, reads, hdeaf, hstage⟩
  · exact .inl ⟨done, fun steps => (hrun steps).trans (hdone steps)⟩
  · exact .inr ⟨reader, r, finish, reads, hdeaf, fun steps => (hrun steps).trans (hstage steps)⟩

lemma congr {stage : List StreamStep → Step σ α} (h : Consults stage pace deaf b)
    (steps steps' : List StreamStep)
    (hread : ∀ (reader : Bot σ) (r : Router), Traced.Reads reader r → reader.deaf = deaf →
      Bot.dispatch pace steps reader = Bot.dispatch pace steps' reader) :
    stage steps b = stage steps' b := by
  rcases h with ⟨done, hdone⟩ | ⟨reader, r, finish, reads, hdeaf, hstage⟩
  · rw [hdone, hdone]
  · rw [hstage, hstage, hread reader r reads hdeaf]

end Consults

section
variable {b : Bot σ} (script : RunScript)

lemma listen_consults {r : Router} {deaf : Bool} (trusted : b.invalidAuth = false)
    (routing : b.router = some r) (sized : r.Sized) (isOpen : r.closed = false)
    (hdeaf : b.deaf = deaf) :
    Consults (fun steps => listen { script with stream := steps }) script.pace deaf b := by
  obtain ⟨host, hannounce⟩ := Traced.announce_frame b
  obtain ⟨host', hworkers⟩ := Traced.startWorkers_frame { b with host, dispatcher := .reading }
  have hdispatch := Consults.dispatch script.pace
    (b := { b with host := host', dispatcher := .reading })
    ⟨rfl, trusted, routing, sized, isOpen⟩ hdeaf
  have hrest := hdispatch.bind fun result => (do
    takeTurns script.pace.ended
    modify fun b => { b with dispatcher := .finished }
    return result : Step σ (Except Fault Unit))
  exact .after hannounce (.after rfl (.after hworkers hrest))

lemma serveRouted_consults {router : Router} {deaf : Bool} (idle : b.Idle) (sized : router.Sized)
    (isOpen : router.closed = false)
    (hdeaf : (b.deaf || script.whileStarting.any Request.stops) = deaf) :
    Consults (fun steps => serveRouted { script with stream := steps } router) script.pace deaf
      b := by
  obtain ⟨host, stopping, hmeet, -, hasked⟩ := Traced.meetAll_frame
    (b := { b with router := some router, working := true }) idle.unread script.whileStarting
  obtain ⟨failure, host, scheduler, hstart, -⟩ :=
    startScheduler_frame { b with router := some router, working := true, host, stopping }
  refine .after rfl (.after hmeet (.after hstart ?_))
  cases failure with
  | some e => exact .const _
  | none =>
    have hlisten := listen_consults script
      (b := { b with router := some router, working := true, host, stopping, scheduler })
      idle.trusted rfl sized isOpen (hasked.trans hdeaf)
    exact hlisten.bind _

lemma serveConnected_consults {deaf : Bool} (idle : b.Idle)
    (hdeaf : (b.deaf || script.whileStarting.any Request.stops) = deaf) :
    Consults (fun steps => serveConnected { script with stream := steps }) script.pace deaf
      b := by
  refine .after rfl (.after rfl ?_)
  cases hcreate : Router.create? b.config.messagePartitionCount b.config.messageQueueBufferSize with
  | error cause => exact .const _
  | ok router =>
    obtain ⟨sized, isOpen, -, -⟩ := Router.create?_cases hcreate
    exact serveRouted_consults script (idle.of_frame _ b.stopping) sized isOpen hdeaf

lemma serve_consults {deaf : Bool} (idle : b.Idle)
    (hdeaf : (b.deaf || (script.whileConnecting ++ script.whileStarting).any Request.stops) =
      deaf) :
    Consults (fun steps => serve { script with stream := steps }) script.pace deaf b := by
  obtain ⟨host, stopping, hmeet, -, hasked⟩ :=
    Traced.meetAll_frame idle.unread script.whileConnecting
  rw [List.any_append, ← Bool.or_assoc, ← hasked] at hdeaf
  simp only [serve_eq]
  obtain ⟨host', hconnect⟩ := Traced.connect_frame { b with host, stopping }
  refine .after hmeet (.after hconnect ?_)
  cases (b.given.connect.run host.world).1 with
  | error fault => exact .const _
  | ok => exact serveConnected_consults script (idle.of_frame host' stopping) hdeaf

/-- Whether a run gets to its stream, and where it reads it, depends on everything but the stream. -/
lemma Rested.run_consults (rested : b.Rested) :
    Consults (fun steps => run { script with stream := steps }) script.pace
      ((script.whileConnecting ++ script.whileStarting).any Request.stops) b := by
  have hserve := serve_consults script rested.entered_idle rfl
  have hrest := hserve.bind fun served => (do
    shutdown script served.2
    return served.1 : Step σ (Except Fault Unit))
  refine .after rfl ?_
  simp only [rested.resting, Bool.false_eq_true, if_false]
  exact .after rfl (.after rfl hrest)

/-! ### What a run comes to -/

/-- A run is the same without what comes after a request to stop, unless somebody asked early. -/
lemma Rested.run_stop (rested : b.Rested)
    (unasked : (script.whileConnecting ++ script.whileStarting).any Request.stops = false)
    {before later : List StreamStep} {request : Request}
    (hstream : script.stream = before ++ .request request :: later)
    (stops : request.stops = true) :
    run script b = run { script with stream := before ++ [.request request] } b := by
  have hrun := (rested.run_consults script).congr script.stream (before ++ [.request request])
    fun reader r reads hdeaf => by
      rw [hstream]
      exact reads.dispatch_stop (hdeaf.trans unasked) script.pace stops before later
  exact hrun

/-- A request to stop is heeded unless one came before reading. In any case a run of a bot that rests
connects, hands over the messages that it meets in its stream, releases the resources and disconnects,
and then the bot rests again. If nobody asked while it connected or started, a request to stop in the
stream ends reading: it meets what came before, and the run is the same without what comes after. If
somebody asked that early, it meets all of its stream, as if nobody asked at any time. All of this
holds whatever turns the workers take. -/
theorem stops_are_heeded_unless_early (rested : b.Rested) :
    let early := (script.whileConnecting ++ script.whileStarting).any Request.stops
    (∃ (result : Except Fault Unit) (handed : List MessageEvent) (after : Bot σ),
      Traced.run script [] b =
        ((result, .connect :: handed.map .process ++ b.closers.reverse.map .close ++ [.disconnect]),
          after) ∧
      run script b = (result, after) ∧
      handed.Perm (if b.starts then (met early script.stream).filterMap Event.routed? else []) ∧
      after.Rested) ∧
    (early = false → ∀ before request later, script.stream = before ++ .request request :: later →
      request.stops = true →
      met early script.stream = met false before ∧
        run script b = run { script with stream := before ++ [.request request] } b) ∧
    (early = true → met early script.stream = met false (unasked script.stream)) := by
  intro early
  refine ⟨?_, fun hearly before request later hstream stops => ?_, fun hearly => ?_⟩
  · obtain ⟨result, handed, after, hdoes, hperm, hafter, -⟩ := rested.run_does script
    exact ⟨result, handed, after, hdoes [], hdoes.mirrored (Traced.run_mirrors script), hperm,
      hafter⟩
  · rw [hearly, hstream]
    exact ⟨met_stop stops before later, rested.run_stop script hearly hstream stops⟩
  · rw [hearly]
    exact met_unasked script.stream

end

end Bot

namespace Echo

def knock : StreamStep := .event (.message (said "91" "hi"))

lemma knock_met (deaf : Bool) :
    (met deaf [knock]).filterMap Event.routed? = [said "91" "hi"] := by
  have identified : (said "91" "hi").isIdentified = true := by decide +kernel
  have hrouted : Event.routed? (.message (said "91" "hi")) = some (said "91" "hi") := by
    rw [Event.routed?, Event.message?, Option.filter_some, if_pos identified]
  rw [knock, met, met, ite_self, List.filterMap_cons, hrouted]
  rfl

lemma sleeper_rested : sleeper.Rested := Bot.Fresh.rested ⟨rfl, rfl, rfl, rfl⟩

lemma sleeper_starts : sleeper.starts = true := by decide +kernel

end Echo

open Echo in
/-- A greeting before a termination signal is processed, and the one after it is not read. -/
theorem greeting_after_signal_is_left :
    ∃ result after,
      Bot.Traced.run { stream := [knock, .request (.signal "SIGTERM"), knock] } [] sleeper =
        ((result, [.connect, .process (said "91" "hi"), .close door, .close lamp, .disconnect]),
          after) := by
  obtain ⟨⟨result, handed, after, htraced, -, hperm, -⟩, hheeds, -⟩ :=
    Bot.stops_are_heeded_unless_early
      { stream := [knock, .request (.signal "SIGTERM"), knock] } sleeper_rested
  obtain ⟨hmet, -⟩ := hheeds rfl [knock] (.signal "SIGTERM") [knock] rfl rfl
  rw [hmet, sleeper_starts, if_pos rfl, knock_met] at hperm
  obtain rfl := List.perm_singleton.mp hperm
  exact ⟨result, after, htraced⟩

open Echo in
/-- A bot that was asked to stop while it connected, and is asked again before a greeting is read,
processes the greeting. -/
theorem greeting_after_two_stops_is_processed :
    ∃ result after,
      Bot.Traced.run { whileConnecting := [.stop], stream := [.request .stop, knock] } [] sleeper =
        ((result, [.connect, .process (said "91" "hi"), .close door, .close lamp, .disconnect]),
          after) := by
  obtain ⟨result, handed, after, hdoes, hperm, -⟩ := sleeper_rested.run_does
    { whileConnecting := [.stop], stream := [.request .stop, knock] }
  rw [sleeper_starts, if_pos rfl] at hperm
  obtain rfl := List.perm_singleton.mp (hperm.trans (.of_eq (knock_met true)))
  exact ⟨result, after, hdoes []⟩

end ChatEngine
