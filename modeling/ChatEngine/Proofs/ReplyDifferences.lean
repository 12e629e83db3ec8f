import ChatEngine.Proofs.TrackedReplies

/-!
# Reply differences

What reconciling asks of the driver, written without its dictionary: a reply is shown to one user,
changes the earlier response of its action, or is posted, each in its turn; then the responses that
no reply took up are deleted, in the order in which they were recorded. This difference depends on
the replies and the responses alone, so no failure changes what is asked for; failures only decide
what is recorded.
-/

namespace ChatEngine

variable {σ : Type}

namespace Outbox

/-! ### The difference -/

/-- What a reply comes to: it is shown to one user, changes the earlier response of its action, or
is posted. -/
def delivery (o : Outbox σ) (message : IncomingMessage) (prior : List Response)
    (reply : PendingReply) : Operation :=
  match reply.options.ephemeralTo with
  | some userId => o.whispering message reply userId
  | none =>
    match prior.find? (·.action = reply.action) with
    | some existing => revising existing reply
    | none => o.sending message reply

/-- The earlier responses of actions that give no reply now, or show it to one user alone. -/
def leftOver (replies : List PendingReply) (prior : List Response) : List Response :=
  prior.filter fun r =>
    replies.all fun reply => reply.options.ephemeralTo.isSome || reply.action ≠ r.action

/-- The operations that lead from earlier responses to replies. -/
def difference (o : Outbox σ) (message : IncomingMessage) (replies : List PendingReply)
    (prior : List Response) : List Operation :=
  replies.map (o.delivery message prior) ++ withdrawals (leftOver replies prior)

/-- Responses under their actions. -/
def keyed (prior : List Response) : Earlier := prior.map fun r => (r.action, r)

lemma get?_keyed (action : ActionId) (prior : List Response) :
    Entries.get? action (keyed prior) = prior.find? (·.action = action) := by
  unfold keyed
  induction prior with
  | nil => rfl
  | cons r rest ih =>
    by_cases hr : r.action = action
    · simp [Entries.get?, hr]
    · simpa [Entries.get?, hr] using ih

lemma erase_keyed (action : ActionId) (prior : List Response) :
    Entries.erase action (keyed prior) = keyed (prior.filter (·.action ≠ action)) := by
  unfold Entries.erase keyed
  rw [List.filter_map]
  rfl

lemma values_keyed (prior : List Response) : (keyed prior).map (·.2) = prior := by
  unfold keyed
  rw [List.map_map]
  exact List.map_id' prior

/-- What a reply comes to does not depend on the responses of other actions. -/
lemma delivery_filter (o : Outbox σ) (message : IncomingMessage) (prior : List Response)
    {action : ActionId} {reply : PendingReply} (hne : reply.action ≠ action) :
    o.delivery message (prior.filter (·.action ≠ action)) reply =
      o.delivery message prior reply := by
  have hfind : (prior.filter (·.action ≠ action)).find? (·.action = reply.action) =
      prior.find? (·.action = reply.action) := by
    rw [List.find?_filter]
    congr 1
    funext r
    by_cases hr : r.action = reply.action
    · simp [hr, hne]
    · simp [hr]
  unfold delivery
  rw [hfind]

lemma leftOver_cons_whispered {reply : PendingReply} (rest : List PendingReply)
    (prior : List Response) (hshown : reply.options.ephemeralTo.isSome = true) :
    leftOver (reply :: rest) prior = leftOver rest prior := by
  unfold leftOver
  simp [hshown]

lemma leftOver_cons {reply : PendingReply} (rest : List PendingReply) (prior : List Response)
    (hshown : reply.options.ephemeralTo = none) :
    leftOver (reply :: rest) prior = leftOver rest (prior.filter (·.action ≠ reply.action)) := by
  unfold leftOver
  rw [List.filter_filter]
  congr 1
  funext r
  by_cases hr : r.action = reply.action
  · simp [hshown, hr]
  · have hr' : ¬reply.action = r.action := fun h => hr h.symm
    simp [hshown, hr, hr']

/-- Replies of distinct actions never compete for an earlier response. -/
lemma operations_keyed (o : Outbox σ) (message : IncomingMessage) {replies : List PendingReply}
    (distinct : (replies.map (·.action)).Nodup) (prior : List Response) :
    o.operations message replies (keyed prior) = o.difference message replies prior := by
  unfold difference
  induction replies generalizing prior with
  | nil =>
    rw [operations, values_keyed]
    simp [leftOver]
  | cons reply rest ih =>
    obtain ⟨hnew, hrest⟩ := List.nodup_cons.mp distinct
    have hothers : rest.map (o.delivery message (prior.filter (·.action ≠ reply.action))) =
        rest.map (o.delivery message prior) := by
      apply List.map_congr_left
      intro other hother
      refine o.delivery_filter message prior fun he => hnew ?_
      exact List.mem_map.mpr ⟨other, hother, he⟩
    unfold operations
    rw [List.map_cons]
    cases hshown : reply.options.ephemeralTo with
    | some userId =>
      have hfirst : o.delivery message prior reply = o.whispering message reply userId := by
        rw [delivery, hshown]
      rw [hfirst, leftOver_cons_whispered rest prior (by rw [hshown, Option.isSome_some])]
      exact congrArg _ (ih hrest prior)
    | none =>
      rw [leftOver_cons rest prior hshown, get?_keyed]
      cases hfound : prior.find? (·.action = reply.action) with
      | some existing =>
        have hfirst : o.delivery message prior reply = revising existing reply := by
          rw [delivery, hshown]
          simp only [hfound]
        rw [hfirst, ← hothers, erase_keyed]
        exact congrArg _ (ih hrest _)
      | none =>
        have hfirst : o.delivery message prior reply = o.sending message reply := by
          rw [delivery, hshown]
          simp only [hfound]
        have hall : prior.filter (·.action ≠ reply.action) = prior := by
          rw [List.filter_eq_self]
          simpa using hfound
        rw [hfirst, hall]
        exact congrArg _ (ih hrest prior)

/-- Reconciling replies of distinct actions with responses of distinct actions asks for the
difference. -/
theorem operations_earlier (o : Outbox σ) (message : IncomingMessage)
    {replies : List PendingReply} {prior : List Response}
    (hreplies : (replies.map (·.action)).Nodup) (hprior : (prior.map (·.action)).Nodup) :
    o.operations message replies (earlier prior) = o.difference message replies prior := by
  rw [earlier_of_nodup hprior]
  exact o.operations_keyed message hreplies prior

/-- No driver, and so no failure, has a say in what is asked for. -/
lemma difference_congr {o other : Outbox σ} (h : other.defaults = o.defaults)
    (message : IncomingMessage) (replies : List PendingReply) (prior : List Response) :
    other.difference message replies prior = o.difference message replies prior := by
  obtain ⟨driver, defaults⟩ := o
  obtain ⟨driver', defaults'⟩ := other
  cases h
  rfl

/-! ### Calls -/

/-- What the withdrawn responses leave on record: those that could not be deleted. -/
def undeleted (responses : List Response) (calls : List Call) : List Response :=
  (responses.zip calls).filterMap fun x => if x.2.succeeded then none else some x.1

lemma undeleted_cons (r : Response) (rest : List Response) (call : Call) (later : List Call) :
    undeleted (r :: rest) (call :: later) =
      if call.succeeded then undeleted rest later else r :: undeleted rest later := by
  unfold undeleted
  rw [List.zip_cons_cons, List.filterMap_cons]
  split_ifs <;> rfl

lemma undeleted_sublist (responses : List Response) (calls : List Call) :
    (undeleted responses calls).Sublist responses := by
  induction responses generalizing calls with
  | nil => exact List.Sublist.refl _
  | cons r rest ih =>
    cases calls with
    | nil => exact List.nil_sublist _
    | cons call later =>
      rw [undeleted_cons]
      split_ifs
      · exact (ih later).cons r
      · exact (ih later).cons_cons r

/-- Withdrawing leaves what could not be deleted on record. -/
lemma recorded_withdrawals {responses : List Response} {calls : List Call}
    (asked : calls.map (·.operation) = withdrawals responses) :
    recorded calls = undeleted responses calls := by
  induction responses generalizing calls with
  | nil =>
    obtain rfl : calls = [] := List.map_eq_nil_iff.mp asked
    rfl
  | cons r rest ih =>
    obtain ⟨⟨op, confirmation⟩, later, rfl, hop, hlater⟩ := List.map_eq_cons_iff.mp asked
    obtain rfl : op = .delete r.action r.message := hop
    rw [undeleted_cons, ← ih hlater]
    cases confirmation <;> rfl

lemma recorded_append (calls more : List Call) :
    recorded (calls ++ more) = recorded calls ++ recorded more := List.filterMap_append

/-- Reconciling makes its calls, and writes at most one log entry after them. -/
lemma reconcileCalls_snd (o : Outbox σ) (message : IncomingMessage) (replies : List PendingReply)
    (prior : List Response) (h : Host σ) :
    ∃ log, (o.reconcileCalls message replies prior h).2 =
      { (o.performAll message.originId (o.operations message replies (earlier prior)) h).2
        with log } := by
  unfold reconcileCalls
  simp only [bind_apply]
  split
  · exact ⟨_, rfl⟩
  · exact ⟨_, rfl⟩

end Outbox

namespace Processor
open Outbox

/-- Brings posted messages in line with replies, and records what is left of them. -/
def settle (p : Processor σ) (message : IncomingMessage) (replies : List PendingReply)
    (prior : List Response) : Step σ Unit := do
  let records ← onHost (p.outbox.reconcile message replies prior)
  remember message.originId records

/-- Replying to a message settles the replies to it with what is on record. -/
lemma processIncoming_eq [Clocked σ] (p : Processor σ) (message : IncomingMessage) :
    p.processIncoming message =
      onHost (p.dialog.replies message) >>= fun replies =>
        remembered message.originId >>= fun prior =>
          p.settle message replies (prior.getD []) := rfl

lemma settle_apply (p : Processor σ) (message : IncomingMessage) (replies : List PendingReply)
    (prior : List Response) (s : State σ) :
    p.settle message replies prior s =
      let done := p.outbox.reconcileCalls message replies prior s.host
      ((), ⟨s.tracker.put message.originId (recorded done.1), done.2⟩) := by
  unfold settle
  simp only [bind_apply, onHost_apply, remember_apply, reconcile_eq, map_apply]

end Processor

lemma ResponseTracker.peek?_put_self {t : ResponseTracker} (room : 0 < t.cache.capacity)
    (origin : MessageId) (responses : List Response) :
    (t.put origin responses).cache.peek? origin =
      if responses.isEmpty then none else some responses := by
  unfold ResponseTracker.put
  split
  · simp [ResponseTracker.remove]
  · obtain ⟨n, hn⟩ : ∃ n, t.cache.capacity = n + 1 := ⟨t.cache.capacity - 1, by omega⟩
    simp [Lru.put, Lru.peek?, hn, Entries.get?]

namespace Processor
open Outbox

/-- Replying to a message settles its replies with what is on record. Settling replies of distinct
actions with responses of distinct actions makes exactly the calls of the difference, one after the
other, and none but these. On record are then the responses that the replies left there, and those
that could not be deleted. -/
theorem settling_makes_the_difference (p : Processor σ) (message : IncomingMessage)
    {replies : List PendingReply} {prior : List Response}
    (hreplies : (replies.map (·.action)).Nodup) (hprior : (prior.map (·.action)).Nodup)
    (s : State σ) (room : 0 < s.tracker.cache.capacity) :
    (∀ [Clocked σ], p.processIncoming message =
      onHost (p.dialog.replies message) >>= fun replies =>
        remembered message.originId >>= fun prior =>
          p.settle message replies (prior.getD [])) ∧
    ∃ delivered withdrawn host log,
      p.outbox.performAll message.originId (p.outbox.difference message replies prior) s.host =
        (delivered ++ withdrawn, host) ∧
      delivered.map (·.operation) = replies.map (p.outbox.delivery message prior) ∧
      withdrawn.map (·.operation) = withdrawals (leftOver replies prior) ∧
      (∀ o : Outbox σ, o.defaults = p.outbox.defaults →
        o.difference message replies prior = p.outbox.difference message replies prior) ∧
      let records := recorded delivered ++ undeleted (leftOver replies prior) withdrawn
      let after := s.tracker.put message.originId records
      p.settle message replies prior s = ((), ⟨after, { host with log }⟩) ∧
        after.cache.peek? message.originId = if records.isEmpty then none else some records := by
  have hoperations := p.outbox.operations_earlier message hreplies hprior
  obtain ⟨log, hlog⟩ := p.outbox.reconcileCalls_snd message replies prior s.host
  have hcalls := p.outbox.reconcileCalls_fst message replies prior s.host
  rw [hoperations] at hlog hcalls
  have hasked := p.outbox.performAll_operations message.originId
    (p.outbox.difference message replies prior) s.host
  obtain ⟨delivered, withdrawn, hsplit, hdelivered, hwithdrawn⟩ := List.map_eq_append_iff.mp hasked
  refine ⟨p.processIncoming_eq message, delivered, withdrawn, _, log, Prod.ext hsplit rfl, hdelivered, hwithdrawn,
    fun o h => difference_congr h message replies prior, ?_, ResponseTracker.peek?_put_self room _ _⟩
  rw [settle_apply]
  dsimp only
  rw [hcalls, hlog, hsplit, recorded_append, recorded_withdrawals hwithdrawn]

end Processor

namespace Echo

def farewell : IncomingMessage where
  msgId := ⟨"C", "1"⟩
  originId := ⟨"C", "1"⟩
  userId := some "U"
  channel := "C"
  rawText := "bye"
  normalizedText := "bye"

/-- One reply to everybody, one to the author alone, and one of an action without responses. -/
def farewells : List PendingReply :=
  [⟨⟨"echo", .hear, 0⟩, { text := "bye" }, {}⟩,
    ⟨⟨"echo", .hear, 1⟩, { text := "psst" }, { ephemeralTo := some "U" }⟩,
    ⟨⟨"echo", .hear, 2⟩, { text := "see you" }, {}⟩]

def greetings : List Response :=
  [⟨⟨"echo", .hear, 1⟩, ⟨"C", "101.0"⟩⟩, ⟨⟨"echo", .hear, 0⟩, ⟨"C", "100.0"⟩⟩]

end Echo

/-- The change of the first greeting fails, so it stays on record; the second greeting, now answered
to one user alone, is deleted. -/
theorem farewells_make_the_difference :
    (Echo.farewells.map (·.action)).Nodup ∧ (Echo.greetings.map (·.action)).Nodup ∧
      0 < Echo.tracker.cache.capacity ∧
      (∃ delivered withdrawn : List Outbox.Call,
        delivered.map (·.operation.name) = ["update", "send_ephemeral", "send"] ∧
        withdrawn.map (·.operation.touched?) = [some ⟨⟨"echo", .hear, 1⟩, ⟨"C", "101.0"⟩⟩]) ∧
      (Echo.processor.settle Echo.farewell Echo.farewells Echo.greetings
        ⟨Echo.tracker, Echo.host⟩).2.tracker.records ⟨"C", "1"⟩ =
          [⟨⟨"echo", .hear, 0⟩, ⟨"C", "100.0"⟩⟩, ⟨⟨"echo", .hear, 2⟩, ⟨"C", "200.0"⟩⟩] := by
  have hreplies : (Echo.farewells.map (·.action)).Nodup := by decide
  have hprior : (Echo.greetings.map (·.action)).Nodup := by decide
  have room : 0 < Echo.tracker.cache.capacity := by decide
  obtain ⟨-, delivered, withdrawn, -, -, -, hdelivered, hwithdrawn, -⟩ :=
    Echo.processor.settling_makes_the_difference Echo.farewell hreplies hprior
      ⟨Echo.tracker, Echo.host⟩ room
  refine ⟨hreplies, hprior, room, ⟨delivered, withdrawn, ?_, ?_⟩, by decide +kernel⟩
  · have hnames := congrArg (List.map Outbox.Operation.name) hdelivered
    rw [List.map_map] at hnames
    exact hnames.trans (by decide)
  · have htouched := congrArg (List.map Outbox.Operation.touched?) hwithdrawn
    rw [List.map_map] at htouched
    exact htouched.trans (by decide)

end ChatEngine
