import ChatEngine.Proofs.HandedMessages
import ChatEngine.Simulation.Session.Connecting
import Mathlib.Data.List.Infix

/-!
# Fresh streams

What a reader of the stream gets after a connection was opened. The queue of events outlives a
connection: what an earlier connection left in it, or the end that its disconnecting put there,
comes before the identity of the new one. So a stream starts with the identity of its own
connection, and lasts as long as that, exactly if everything was read before
(`stream_is_fresh_iff`).

Operations on a connection succeed here in that every connect ends connected. Readers take one event
after the other (`take`), whatever else happens in between.
-/

namespace ChatEngine.Slack.Connection

variable {σ : Type}

/-! ### Operations -/

/-- What is done with a connection, and around it. -/
inductive Operation (σ : Type) where
  | connect
  | disconnect
  | receive (payload : Value)
  /-- A reader of the stream takes the next event, if one waits. -/
  | take
  /-- The world goes on by itself. -/
  | elapse (world : σ)

/-- Takes the next event of the queue. -/
def take : StateM (Connection σ) (List Event) := fun c =>
  (c.queue.take 1, { c with queue := c.queue.drop 1 })

/-- Does an operation; the result is the events taken. -/
def perform [Clocked σ] (p : Platform σ) (op : Operation σ) : StateM (Connection σ) (List Event) :=
  fun c => match op with
  | .connect => ([], ((connect p).run c).2)
  | .disconnect => ([], ((disconnect p).run c).2)
  | .receive payload => ([], ((receive payload).run c).2)
  | .take => take c
  | .elapse world => ([], { c with world })

/-- Does operations one after the other; the result is the events taken. -/
def performAll [Clocked σ] (p : Platform σ) :
    List (Operation σ) → StateM (Connection σ) (List Event)
  | [] => return []
  | op :: rest => return (← perform p op) ++ (← performAll p rest)

/-- The states that operations lead to from a new connection when every connect succeeds, with the
number of connections opened so far. -/
inductive Reached [Clocked σ] (p : Platform σ) : Nat → Connection σ → Prop
  | create (config : BotConfig) {world : σ} {c : Connection σ}
      (created : create? config world = .ok c) : Reached p 0 c
  | connect {n : Nat} {c : Connection σ} (reached : Reached p n c) (closed : c.connected = false)
      (opened : ((connect p).run c).2.connected = true) : Reached p (n + 1) ((connect p).run c).2
  | reconnect {n : Nat} {c : Connection σ} (reached : Reached p n c) (isOpen : c.connected = true) :
      Reached p n ((connect p).run c).2
  | other {n : Nat} {c : Connection σ} (op : Operation σ) (different : op ≠ .connect)
      (reached : Reached p n c) : Reached p n (perform p op c).2

/-! ### What operations do to the queue -/

/-- A connection changed by events that were queued, and else in its world and log at most. -/
structure Queued (events : List Event) (c c' : Connection σ) : Prop where
  connected : c'.connected = c.connected
  count : c'.count = c.count
  queue : c'.queue = c.queue ++ events

namespace Queued

lemma of_eq {c c' : Connection σ} (connected : c'.connected = c.connected)
    (count : c'.count = c.count) (queue : c'.queue = c.queue) : Queued [] c c' :=
  ⟨connected, count, queue.trans (List.append_nil _).symm⟩

lemma trans {events events' : List Event} {c d e : Connection σ} (h : Queued events c d)
    (h' : Queued events' d e) : Queued (events ++ events') c e :=
  ⟨h'.connected.trans h.connected, h'.count.trans h.count, by
    rw [h'.queue, h.queue, List.append_assoc]⟩

lemma receive (payload : Value) (c : Connection σ) :
    Queued [.message (.ofPayload payload)] c ((receive payload).run c).2 := ⟨rfl, rfl, rfl⟩

lemma receiveAll (delivered : List Value) (c : Connection σ) :
    ((delivered.forM Connection.receive : Effect (Connection σ) PUnit).run c).1 = .ok () ∧
      Queued (delivered.map fun v => .message (.ofPayload v)) c
        ((delivered.forM Connection.receive : Effect (Connection σ) PUnit).run c).2 := by
  induction delivered generalizing c with
  | nil => exact ⟨rfl, .of_eq rfl rfl rfl⟩
  | cons payload rest ih =>
    obtain ⟨hresult, hqueued⟩ := ih ((Connection.receive payload).run c).2
    exact ⟨hresult, (receive payload c).trans hqueued⟩

lemma attempts {α : Type} (policy : RetryPolicy)
    {pause : LogEntry → Float → StateM (Connection σ) Unit}
    {act : Nat → Effect (Connection σ) α}
    (hpause : ∀ entry seconds c, Queued [] c (pause entry seconds c).2)
    (hact : ∀ n c, Queued [] c ((act n).run c).2) (more attempt : Nat) (c : Connection σ) :
    Queued [] c (policy.attempts pause act more attempt c).2 := by
  induction more generalizing attempt c with
  | zero => exact hact attempt c
  | succ more ih =>
    unfold RetryPolicy.attempts
    rw [bind_apply]
    have hfirst := hact attempt c
    cases ((act attempt).run c).1 with
    | ok a => exact hfirst
    | error fault =>
      dsimp only
      split
      · exact (hfirst.trans (hpause _ _ _)).trans (ih _ _)
      · exact hfirst

lemma authenticate (p : Platform σ) (c : Connection σ) :
    Queued [] c ((authenticate p).run c).2 :=
  attempts _ (fun _ _ _ => .of_eq rfl rfl rfl) (fun _ _ => .of_eq rfl rfl rfl) _ _ _

end Queued

/-- Who the answer to an authentication says that the bot is. -/
def identityOf (data : Value) : Identity :=
  ⟨data.textField "user_id" (some ""), data.textField "user" (some "")⟩

/-- What a connection puts into the queue when it is opened. -/
def greeting (identity : Identity) (number : Nat) (delivered : List Value) (latency : Float) :
    List Event :=
  .hello :: .connected identity number ::
    (delivered.map fun v => .message (.ofPayload v)) ++ [.latency latency]

/-- The state in which the socket is opened: the identity is queued already. -/
def announced (identity : Identity) (c : Connection σ) : Connection σ :=
  { c with
    count := c.count + 1
    queue := c.queue ++ [.hello] ++ [.connected identity (c.count + 1 : Nat)] }

/-- What is done once the socket is open. -/
def settle (data : Value) (latency : Float) (delivered : List Value) :
    Effect (Connection σ) Unit := do
  delivered.forM receive
  Effect.change fun c => { c with connected := true }
  enqueue (.latency latency)
  record .info "slack_connected"
    [("team", (data.get? "team").getD .null), ("user_id", .ofOption (identityOf data).userId)]

lemma outside_run {α : Type} (act : Effect σ α) (c : Connection σ) :
    (outside act).run c = ((act.run c.world).1, { c with world := (act.run c.world).2 }) := rfl

lemma join_run (p : Platform σ) (data : Value) (latency : Float) (c : Connection σ) :
    (join p data latency).run c =
      let socket := (p.openSocket c.token c.appToken).run c.world
      (match socket.1 with
        | .error fault => failed fault
        | .ok delivered => settle data latency delivered).run
        { announced (identityOf data) c with world := socket.2 } := by
  change (Effect.lift (outside (p.openSocket c.token c.appToken)).attempt >>= fun socket => _ :
    Effect (Connection σ) Unit).run (announced (identityOf data) c) = _
  rw [Effect.bind_run, Effect.lift_run, Effect.attempt, outside_run]
  rfl

lemma settle_queued (data : Value) (latency : Float) (delivered : List Value)
    (c : Connection σ) :
    ((settle data latency delivered).run c).2.count = c.count ∧
      ((settle data latency delivered).run c).2.queue =
        c.queue ++ ((delivered.map fun v => .message (.ofPayload v)) ++ [.latency latency]) := by
  obtain ⟨hresult, hqueued⟩ := Queued.receiveAll delivered c
  unfold settle
  rw [Effect.bind_run]
  generalize (delivered.forM receive : Effect (Connection σ) PUnit).run c = got at hresult hqueued
  obtain ⟨result, c'⟩ := got
  dsimp only at hresult hqueued
  subst hresult
  refine ⟨hqueued.count, ?_⟩
  rw [← List.append_assoc, ← hqueued.queue]
  rfl

lemma join_opens (p : Platform σ) (data : Value) (latency : Float) {c : Connection σ}
    (closed : c.connected = false) (opened : ((join p data latency).run c).2.connected = true) :
    ∃ delivered, ((join p data latency).run c).2.count = c.count + 1 ∧
      ((join p data latency).run c).2.queue =
        c.queue ++ greeting (identityOf data) (c.count + 1) delivered latency := by
  rw [join_run] at opened ⊢
  dsimp only at opened ⊢
  generalize (p.openSocket c.token c.appToken).run c.world = socket at opened ⊢
  obtain ⟨fault | delivered, world⟩ := socket
  · exact absurd (closed.symm.trans opened) Bool.false_ne_true
  · obtain ⟨hcount, hqueue⟩ :=
      settle_queued data latency delivered { announced (identityOf data) c with world }
    refine ⟨delivered, hcount, ?_⟩
    dsimp only
    rw [hqueue]
    simp [announced, greeting]

/-- A connect that opens the connection has asked who the bot is, and queues that ahead of what the
socket delivers. -/
lemma connect_opens [Clocked σ] (p : Platform σ) {c : Connection σ} (closed : c.connected = false)
    (opened : ((connect p).run c).2.connected = true) :
    ∃ data delivered latency, ((authenticate p).run c).1 = .ok (.answer data) ∧
      ((connect p).run c).2.count = c.count + 1 ∧
      ((connect p).run c).2.queue =
        c.queue ++ greeting (identityOf data) (c.count + 1) delivered latency := by
  have hauth := Queued.authenticate p c
  unfold connect at opened ⊢
  rw [Effect.get_bind_run, if_neg (by simp [closed])] at opened ⊢
  rw [Effect.get_bind_run, Effect.bind_run, Effect.lift_run] at opened ⊢
  dsimp only [Effect.attempt] at opened ⊢
  generalize (authenticate p).run c = asked at hauth opened ⊢
  obtain ⟨result, c'⟩ := asked
  have hstill : c'.connected = false := hauth.connected.trans closed
  rcases result with fault | (data | code)
  · exact absurd (hstill.symm.trans opened) Bool.false_ne_true
  · dsimp only at opened ⊢
    rw [Effect.get_bind_run] at opened ⊢
    obtain ⟨delivered, hcount, hqueue⟩ := join_opens p data _ hstill opened
    have hsame : c'.queue = c.queue := hauth.queue.trans (List.append_nil _)
    have hnumber : c'.count = c.count := hauth.count
    rw [hnumber, hsame] at hqueue
    exact ⟨data, delivered, _, rfl, hnumber ▸ hcount, hqueue⟩
  · dsimp only at opened
    split at opened
    · exact absurd (hstill.symm.trans opened) Bool.false_ne_true
    · exact absurd (hstill.symm.trans opened) Bool.false_ne_true

lemma disconnect_queue (p : Platform σ) (c : Connection σ) :
    ((disconnect p).run c).2.count = c.count ∧
      (((disconnect p).run c).2.queue = c.queue ∨
        ((disconnect p).run c).2.queue = c.queue ++ [.termination]) := by
  unfold disconnect
  rw [Effect.get_bind_run]
  cases c.connected with
  | false => exact ⟨rfl, .inl rfl⟩
  | true =>
    rw [if_neg (by simp), Effect.bind_run, Effect.lift_run, Effect.attempt, outside_run]
    dsimp only
    cases (p.closeSocket.run c.world).1 with
    | ok => exact ⟨rfl, .inr rfl⟩
    | error fault => exact ⟨rfl, .inr rfl⟩

/-! ### Taking and reading -/

lemma splitStream_append (queue : List Event) :
    (splitStream queue).1 ++ (splitStream queue).2 = queue := by
  induction queue with
  | nil => rfl
  | cons e rest ih => cases e <;> first | rfl | exact congrArg (List.cons _) ih

section
variable [Clocked σ]

lemma connect_of_open (p : Platform σ) {c : Connection σ} (isOpen : c.connected = true) :
    (connect p).run c = (.ok (), c) := by
  unfold connect
  rw [Effect.get_bind_run, if_pos isOpen]
  rfl

/-- While a connection stays open, what is taken and what still waits is what waited, followed by
messages. -/
lemma perform_conserves (p : Platform σ) {c : Connection σ} (isOpen : c.connected = true)
    {op : Operation σ} (stays : op ≠ .disconnect) :
    (perform p op c).2.connected = true ∧ ∃ messages : List MessageEvent,
      (perform p op c).1 ++ (perform p op c).2.queue = c.queue ++ messages.map .message := by
  cases op with
  | connect =>
    unfold perform
    rw [connect_of_open p isOpen]
    exact ⟨isOpen, [], (List.append_nil _).symm⟩
  | disconnect => exact absurd rfl stays
  | receive payload => exact ⟨isOpen, [.ofPayload payload], rfl⟩
  | take => exact ⟨isOpen, [], (List.take_append_drop 1 c.queue).trans (List.append_nil _).symm⟩
  | elapse world => exact ⟨isOpen, [], (List.append_nil _).symm⟩

lemma performAll_conserves (p : Platform σ) {ops : List (Operation σ)} (stays : .disconnect ∉ ops)
    {c : Connection σ} (isOpen : c.connected = true) :
    ∃ messages : List MessageEvent,
      (performAll p ops c).1 ++ (performAll p ops c).2.queue =
        c.queue ++ messages.map .message := by
  induction ops generalizing c with
  | nil => exact ⟨[], (List.append_nil _).symm⟩
  | cons op rest ih =>
    rw [List.mem_cons, not_or] at stays
    obtain ⟨hopen, messages, hfirst⟩ := perform_conserves p isOpen (Ne.symm stays.1)
    obtain ⟨further, hrest⟩ := ih stays.2 hopen
    refine ⟨messages ++ further, ?_⟩
    rw [List.map_append, ← List.append_assoc, ← hfirst, List.append_assoc, ← hrest]
    exact List.append_assoc _ _ _

/-- Connections are numbered as they are opened, and no number is in the queue ahead of time. -/
structure Numbered (n : Nat) (c : Connection σ) : Prop where
  count : c.count = n
  past : ∀ identity number, .connected identity number ∈ c.queue → number ≤ n

lemma Reached.numbered {p : Platform σ} {n : Nat} {c : Connection σ} (h : Reached p n c) :
    Numbered n c := by
  induction h with
  | @create config world c created =>
    have hcreated : c.count = 0 ∧ c.queue = [] := by
      unfold create? at created
      cases hs : config.socketToken with
      | error e => rw [hs] at created; cases created
      | ok token => rw [hs] at created; cases created; exact ⟨rfl, rfl⟩
    refine ⟨hcreated.1, ?_⟩
    intro identity number hmem
    rw [hcreated.2] at hmem
    cases hmem
  | @connect n c _ closed opened ih =>
    obtain ⟨data, delivered, latency, -, hcount, hqueue⟩ := connect_opens p closed opened
    refine ⟨hcount.trans (congrArg (· + 1) ih.count), ?_⟩
    intro identity number hmem
    rw [hqueue, List.mem_append] at hmem
    rcases hmem with hmem | hmem
    · have := ih.past identity number hmem
      omega
    · simp [greeting, ih.count] at hmem
      omega
  | @reconnect n c _ isOpen ih => rwa [connect_of_open p isOpen]
  | @other n c op different _ ih =>
    cases op with
    | connect => exact absurd rfl different
    | disconnect =>
      obtain ⟨hcount, hqueue⟩ := disconnect_queue p c
      refine ⟨hcount.trans ih.count, ?_⟩
      intro identity number hmem
      apply ih.past identity number
      rcases hqueue with hqueue | hqueue
      · exact hqueue ▸ hmem
      · change _ ∈ ((disconnect p).run c).2.queue at hmem
        simpa [hqueue] using hmem
    | receive payload =>
      refine ⟨ih.count, fun identity number hmem => ih.past identity number ?_⟩
      change _ ∈ c.queue ++ [.message _] at hmem
      simpa using hmem
    | take =>
      exact ⟨ih.count, fun identity number hmem =>
        ih.past identity number (List.mem_of_mem_drop hmem)⟩
    | elapse world => exact ⟨ih.count, ih.past⟩

/-! ### Fresh streams -/

/-- A stream that starts with the identity and the number of its connection and lasts as long as
that, whatever happens to the connection short of a disconnect. -/
structure Fresh (p : Platform σ) (c : Connection σ) (identity : Identity) (number : Nat) :
    Prop where
  greets : ∃ more, (readStream c).1 = .hello :: .connected identity number :: more
  first : ∀ ops, .disconnect ∉ ops →
    (performAll p ops c).1.take 2 <+: [.hello, .connected identity number]
  lasts : ∀ ops, .disconnect ∉ ops → ∀ e ∈ (performAll p ops c).1, e.ends = false

lemma ends_of_mem_greeting {identity : Identity} {number : Nat} {delivered : List Value}
    {latency : Float} {messages : List MessageEvent} {e : Event}
    (h : e ∈ greeting identity number delivered latency ++ messages.map .message) :
    e.ends = false := by
  simp only [greeting, List.mem_append, List.mem_cons, List.mem_map, List.not_mem_nil,
    or_false] at h
  rcases h with ((rfl | rfl | ⟨_, -, rfl⟩) | rfl) | ⟨_, -, rfl⟩ <;> rfl

lemma fresh_of_greeting (p : Platform σ) {c : Connection σ} (isOpen : c.connected = true)
    {identity : Identity} {number : Nat} {delivered : List Value} {latency : Float}
    (hqueue : c.queue = greeting identity number delivered latency) :
    Fresh p c identity number := by
  refine ⟨?_, fun ops stays => ?_, fun ops stays e he => ?_⟩
  · unfold readStream
    rw [hqueue]
    exact ⟨_, rfl⟩
  · obtain ⟨messages, h⟩ := performAll_conserves p stays isOpen
    rw [hqueue] at h
    exact List.IsPrefix.take ⟨_, h⟩ 2
  · obtain ⟨messages, h⟩ := performAll_conserves p stays isOpen
    rw [hqueue] at h
    exact ends_of_mem_greeting (h ▸ List.mem_append_left _ he)

/-- The stream of a connection that was just opened is fresh exactly if no event was left unread. -/
theorem stream_is_fresh_iff (p : Platform σ) {n : Nat} {c : Connection σ} (reached : Reached p n c)
    (closed : c.connected = false) (opened : ((connect p).run c).2.connected = true) :
    ∃ data, ((authenticate p).run c).1 = .ok (.answer data) ∧
      (Fresh p ((connect p).run c).2 (identityOf data) (n + 1) ↔ c.queue = []) := by
  obtain ⟨data, delivered, latency, hasked, -, hqueue⟩ := connect_opens p closed opened
  rw [reached.numbered.count] at hqueue
  refine ⟨data, hasked, fun fresh => ?_, fun hempty => ?_⟩
  · obtain ⟨more, hread⟩ := fresh.greets
    have hwaiting := splitStream_append ((connect p).run c).2.queue
    change (readStream _).1 ++ _ = _ at hwaiting
    rw [hread, hqueue] at hwaiting
    rcases hunread : c.queue with _ | ⟨x, _ | ⟨y, rest⟩⟩
    · rfl
    · -- The one event left over would be the greeting's first, but what follows it is no identity.
      rw [hunread] at hwaiting
      exact nomatch (List.cons.inj (List.cons.inj hwaiting).2).1
    · rw [hunread] at hwaiting
      have hy : y = .connected (identityOf data) (n + 1 : Nat) :=
        (List.cons.inj (List.cons.inj hwaiting).2).1.symm
      have hpast := reached.numbered.past (identityOf data) (n + 1 : Nat) (by simp [hunread, hy])
      omega
  · rw [hempty, List.nil_append] at hqueue
    exact fresh_of_greeting p opened hqueue

end

end ChatEngine.Slack.Connection

namespace ChatEngine
open Slack Slack.Connection Simulation

namespace Reconnecting

def config : BotConfig := { token := "t", appToken := some "x" }

/-- What Slack says of the bot. -/
def account : Value := .map [("user_id", .str "B"), ("user", .str "bot")]

def created : Connection SlackSide :=
  { token := "t", appToken := "x", world := { reply := .map [("data", account)] } }

/-- A connection that was opened once, its greeting read, and closed again. -/
def closed : Connection SlackSide :=
  (performAll SlackSide.platform [.connect, .take, .take, .take, .disconnect] created).2

lemma closed_reached : Connection.Reached SlackSide.platform 1 closed := by
  have hcreated : Connection.Reached SlackSide.platform 0 created := .create config rfl
  have hopened := hcreated.connect rfl rfl
  have hread := ((hopened.other .take nofun).other .take nofun).other .take nofun
  exact hread.other .disconnect nofun

/-- The same connection after the end of its stream was read as well. -/
def finished : Connection SlackSide := (take closed).2

end Reconnecting

/-- The end of an earlier connection's stream, left unread, is all that the stream of the next
connection yields. -/
theorem old_end_ends_new_stream :
    Connection.Reached SlackSide.platform 1 Reconnecting.closed ∧
      Reconnecting.closed.connected = false ∧
      ((connect SlackSide.platform).run Reconnecting.closed).2.connected = true ∧
      (readStream ((connect SlackSide.platform).run Reconnecting.closed).2).1 = [.termination] ∧
      ∀ identity number, ¬ Fresh SlackSide.platform
        ((connect SlackSide.platform).run Reconnecting.closed).2 identity number := by
  refine ⟨Reconnecting.closed_reached, rfl, rfl, rfl, ?_⟩
  intro identity number fresh
  obtain ⟨more, hread⟩ := fresh.greets
  exact nomatch (List.cons.inj hread).1

/-- Once the end of the earlier stream was read, the next connection's stream is fresh. -/
theorem stream_is_fresh_once_read :
    Connection.Reached SlackSide.platform 1 Reconnecting.finished ∧
      Reconnecting.finished.connected = false ∧
      ((connect SlackSide.platform).run Reconnecting.finished).2.connected = true ∧
      Fresh SlackSide.platform ((connect SlackSide.platform).run Reconnecting.finished).2
        { userId := some "B", userName := some "bot" } 2 := by
  have hreached : Connection.Reached SlackSide.platform 1 Reconnecting.finished :=
    Reconnecting.closed_reached.other .take nofun
  obtain ⟨data, hasked, hfresh⟩ := stream_is_fresh_iff SlackSide.platform hreached rfl rfl
  have hdata : data = Reconnecting.account := by
    have hanswer : ((authenticate SlackSide.platform).run Reconnecting.finished).1 =
        .ok (.answer Reconnecting.account) := rfl
    rw [hanswer] at hasked
    exact (Reply.answer.inj (Except.ok.inj hasked)).symm
  subst hdata
  exact ⟨hreached, rfl, rfl, hfresh.mpr rfl⟩

end ChatEngine
