import ChatEngine.Proofs.LruEviction
import ChatEngine.Reply.Reconcile

/-!
# Calls of an outbox

Bringing posted messages in line with replies makes one driver call after the other. Which
operations are asked for, and in which order, depends on the replies and on the earlier responses
alone; what goes on record depends on what each call was confirmed with. This file names the
operations and the calls, and shows that `Outbox.reconcile` and `Outbox.withdrawAll` make exactly
these calls.
-/

namespace ChatEngine

section StateSteps

variable {σ α β : Type}

lemma bind_apply (x : StateM σ α) (f : α → StateM σ β) (s : σ) :
    (x >>= f) s = f (x s).1 (x s).2 := rfl

lemma map_apply (f : α → β) (x : StateM σ α) (s : σ) : (f <$> x) s = (f (x s).1, (x s).2) := rfl

lemma pure_apply (a : α) (s : σ) : (pure a : StateM σ α) s = (a, s) := rfl

lemma get_apply (s : σ) : (get : StateM σ σ) s = (s, s) := rfl

lemma get_bind_apply (f : σ → StateM σ α) (s : σ) : (get >>= f) s = f s s := rfl

lemma Effect.bind_run (x : Effect σ α) (f : α → Effect σ β) (s : σ) :
    (x >>= f).run s =
      match x.run s with
      | (.ok a, t) => (f a).run t
      | (.error fault, t) => (.error fault, t) := by
  change ExceptT.bindCont f (x.run s).1 (x.run s).2 = _
  cases x.run s with
  | mk r t => cases r <;> rfl

lemma Effect.attempt_bind (act : Effect σ α) (next : α → Effect σ β) (s : σ) :
    (act >>= next).attempt s =
      match (act.attempt s).1 with
      | .ok a => (next a).attempt (act.attempt s).2
      | .error fault => (.error fault, (act.attempt s).2) := by
  refine (Effect.bind_run act next s).trans ?_
  rw [attempt]
  rcases act.run s with ⟨fault | a, t⟩ <;> rfl

lemma Effect.attempt_bind_ok {act : Effect σ α} {a : α} {s : σ} (h : (act.attempt s).1 = .ok a)
    (next : α → Effect σ β) :
    (act >>= next).attempt s = (next a).attempt (act.attempt s).2 := by
  rw [attempt_bind, h]

lemma Effect.get_bind_run (f : σ → Effect σ β) (s : σ) :
    ((get : Effect σ σ) >>= f).run s = (f s).run s := rfl

lemma Effect.lift_run (act : StateM σ α) (s : σ) :
    (Effect.lift act).run s = (.ok (act s).1, (act s).2) := rfl

lemma Host.outside_run (act : Effect σ α) (h : Host σ) :
    (Host.outside act).run h = ((act.run h.world).1, { h with world := (act.run h.world).2 }) := rfl

end StateSteps

variable {σ : Type}

namespace Outbox

/-- What an outbox asks of the driver, and for which action. -/
inductive Operation where
  | send (action : ActionId) (message : Outgoing)
  | whisper (action : ActionId) (message : Whisper)
  | update (action : ActionId) (target : MessageId) (text : String) (blocks : Option (List Value))
  | delete (action : ActionId) (target : MessageId)

namespace Operation

/-- What the driver confirms an operation with. -/
abbrev Confirmation : Operation → Type
  | .send _ _ => MessageId
  | .whisper _ _ => Unit
  | .update _ _ _ _ => MessageId
  | .delete _ _ => Unit

def name : Operation → String
  | .send _ _ => "send"
  | .whisper _ _ => "send_ephemeral"
  | .update _ _ _ _ => "update"
  | .delete _ _ => "delete"

def action : Operation → ActionId
  | .send action _ => action
  | .whisper action _ => action
  | .update action _ _ _ => action
  | .delete action _ => action

/-- The earlier response that an operation changes or deletes. -/
def touched? : Operation → Option Response
  | .update action target _ _ => some ⟨action, target⟩
  | .delete action target => some ⟨action, target⟩
  | _ => none

/-- The action that an operation can leave a response of on record. -/
def recordable? : Operation → Option ActionId
  | .whisper _ _ => none
  | op => some op.action

end Operation

/-- A call of the driver: the operation asked for, and what it was confirmed with unless it
failed. -/
structure Call where
  operation : Operation
  confirmation : Option operation.Confirmation

namespace Call

def succeeded (c : Call) : Bool := c.confirmation.isSome

/-- The response that is on record after the call: the message as it is now, or as it was if it
could not be changed. -/
def record? : Call → Option Response
  | ⟨.send action _, some id⟩ => some ⟨action, id⟩
  | ⟨.update action _ _ _, some id⟩ => some ⟨action, id⟩
  | ⟨.update action target _ _, none⟩ => some ⟨action, target⟩
  | ⟨.delete action target, none⟩ => some ⟨action, target⟩
  | _ => none

/-- What a confirmed call wrote into which message: its text and its blocks. -/
def written? : Call → Option (Response × String × Option (List Value))
  | ⟨.send action message, some id⟩ => some (⟨action, id⟩, message.text, message.blocks)
  | ⟨.update action _ text blocks, some id⟩ => some (⟨action, id⟩, text, blocks)
  | _ => none

end Call

def recorded (calls : List Call) : List Response := calls.filterMap Call.record?

def request (o : Outbox σ) : (op : Operation) → Effect (Host σ) op.Confirmation
  | .send _ message => o.driver.send message
  | .whisper _ message => o.driver.whisper message
  | .update _ target text blocks => o.driver.update target text blocks
  | .delete _ target => o.driver.delete target

/-- Performs an operation; a failure is counted and logged. -/
def perform (o : Outbox σ) (origin : MessageId) (op : Operation) : StateM (Host σ) Call := do
  match ← (o.request op).attempt with
  | .ok confirmation => return ⟨op, some confirmation⟩
  | .error _ =>
    failed op.name origin op.action (op.touched?.map (·.message))
    return ⟨op, none⟩

/-- Performs operations in order. -/
def performAll (o : Outbox σ) (origin : MessageId) : List Operation → StateM (Host σ) (List Call)
  | [] => return []
  | op :: rest => do
    let call ← o.perform origin op
    let calls ← o.performAll origin rest
    return call :: calls

def sending (o : Outbox σ) (message : IncomingMessage) (reply : PendingReply) : Operation :=
  let place := o.defaults.placement message reply.options
  .send reply.action { channel := message.channel, text := reply.answer.text, thread := place.1,
                       broadcast := place.2, blocks := reply.answer.blocks }

def whispering (o : Outbox σ) (message : IncomingMessage) (reply : PendingReply)
    (userId : String) : Operation :=
  let place := o.defaults.placement message reply.options
  .whisper reply.action { channel := message.channel, userId, text := reply.answer.text,
                          thread := place.1, blocks := reply.answer.blocks }

def revising (existing : Response) (reply : PendingReply) : Operation :=
  .update reply.action existing.message reply.answer.text reply.answer.blocks

def withdrawals (responses : List Response) : List Operation :=
  responses.map fun r => .delete r.action r.message

/-- The operations that bring earlier messages in line with replies: those of the replies in
order, then the deletion of what is left over. -/
def operations (o : Outbox σ) (message : IncomingMessage) :
    List PendingReply → Earlier → List Operation
  | [], previous => withdrawals (previous.map (·.2))
  | reply :: rest, previous =>
    match reply.options.ephemeralTo with
    | some userId => o.whispering message reply userId :: o.operations message rest previous
    | none =>
      match Entries.get? reply.action previous with
      | some existing =>
        revising existing reply :: o.operations message rest (Entries.erase reply.action previous)
      | none => o.sending message reply :: o.operations message rest previous

/-- Earlier responses stand under their own actions. -/
def Keyed (previous : Earlier) : Prop := ∀ e ∈ previous, e.2.action = e.1

lemma Keyed.erase {previous : Earlier} (h : Keyed previous) (action : ActionId) :
    Keyed (Entries.erase action previous) :=
  fun e he => h e (List.mem_of_mem_filter he)

lemma keyed_put {previous : Earlier} (h : Keyed previous) (r : Response) :
    Keyed (Entries.put r.action r previous) := by
  induction previous with
  | nil =>
    intro e he
    rw [List.mem_singleton.mp he]
  | cons first rest ih =>
    obtain ⟨action, existing⟩ := first
    have hrest : Keyed rest := fun e he => h e (List.mem_cons_of_mem _ he)
    intro e he
    unfold Entries.put at he
    split at he
    · next hk =>
      rcases List.mem_cons.mp he with rfl | he
      · exact hk.symm
      · exact hrest e he
    · rcases List.mem_cons.mp he with rfl | he
      · exact h _ List.mem_cons_self
      · exact ih hrest e he

lemma earlier_keyed (prior : List Response) : Keyed (earlier prior) := by
  have h : ∀ previous : Earlier, Keyed previous →
      Keyed (Entries.update previous (prior.map fun r => (r.action, r))) := by
    induction prior with
    | nil => exact fun _ h => h
    | cons r rest ih => exact fun previous h => ih _ (keyed_put h r)
  exact h [] (fun _ he => by cases he)

lemma values_put {r : Response} {previous : Earlier} {e : ActionId × Response}
    (h : e ∈ Entries.put r.action r previous) : e.2 = r ∨ e ∈ previous := by
  induction previous with
  | nil =>
    rw [List.mem_singleton.mp h]
    exact .inl rfl
  | cons first rest ih =>
    unfold Entries.put at h
    split at h
    · rcases List.mem_cons.mp h with rfl | h
      · exact .inl rfl
      · exact .inr (List.mem_cons_of_mem _ h)
    · rcases List.mem_cons.mp h with rfl | h
      · exact .inr List.mem_cons_self
      · exact (ih h).imp_right (List.mem_cons_of_mem _)

lemma mem_of_mem_earlier {prior : List Response} {e : ActionId × Response}
    (h : e ∈ earlier prior) : e.2 ∈ prior := by
  have hvalues : ∀ (more : List Response) (previous : Earlier),
      e ∈ Entries.update previous (more.map fun r => (r.action, r)) → e ∈ previous ∨ e.2 ∈ more := by
    intro more
    induction more with
    | nil => exact fun _ h => .inl h
    | cons r rest ih =>
      intro previous h
      rcases ih _ h with h | h
      · rcases values_put h with hr | h
        · exact .inr (List.mem_cons.mpr (.inl hr))
        · exact .inl h
      · exact .inr (List.mem_cons_of_mem _ h)
  exact (hvalues prior [] h).resolve_left List.not_mem_nil

lemma earlier_nodup (prior : List Response) : ((earlier prior).map Prod.fst).Nodup :=
  Entries.nodup_keys_ofList _

/-- Of responses with distinct actions none hides another. -/
lemma earlier_of_nodup {prior : List Response} (h : (prior.map (·.action)).Nodup) :
    earlier prior = prior.map fun r => (r.action, r) :=
  Entries.ofList_of_nodup _ (by rwa [List.map_map])

lemma perform_apply (o : Outbox σ) (origin : MessageId) (op : Operation) (h : Host σ) :
    o.perform origin op h =
      match (o.request op).attempt h with
      | (.ok confirmation, h) => (⟨op, some confirmation⟩, h)
      | (.error _, h) =>
        (⟨op, none⟩, (failed op.name origin op.action (op.touched?.map (·.message)) h).2) := by
  unfold perform
  rw [bind_apply]
  rcases (o.request op).attempt h with ⟨result, h'⟩
  cases result <;> rfl

lemma perform_operation (o : Outbox σ) (origin : MessageId) (op : Operation) (h : Host σ) :
    (o.perform origin op h).1.operation = op := by
  rw [perform_apply]
  rcases (o.request op).attempt h with ⟨result, h'⟩
  cases result <;> rfl

lemma performAll_operations (o : Outbox σ) (origin : MessageId) (ops : List Operation)
    (h : Host σ) : (o.performAll origin ops h).1.map (·.operation) = ops := by
  induction ops generalizing h with
  | nil => rfl
  | cons op rest ih =>
    unfold performAll
    simp only [bind_apply, pure_apply, List.map_cons, perform_operation, ih]

lemma asked_of_performed {o : Outbox σ} {origin : MessageId} {ops : List Operation} {h : Host σ}
    {calls : List Call} (performed : calls = (o.performAll origin ops h).1) :
    calls.map (·.operation) = ops := by
  rw [performed, performAll_operations]

/-- A driver that answers an operation the same whenever it is asked. -/
def Memoryless (o : Outbox σ) (outcome : (op : Operation) → Option op.Confirmation) : Prop :=
  ∀ origin op h, (o.perform origin op h).1 = ⟨op, outcome op⟩

lemma Memoryless.performAll {o : Outbox σ} {outcome : (op : Operation) → Option op.Confirmation}
    (ho : o.Memoryless outcome) (origin : MessageId) (ops : List Operation) (h : Host σ) :
    (o.performAll origin ops h).1 = ops.map fun op => ⟨op, outcome op⟩ := by
  induction ops generalizing h with
  | nil => rfl
  | cons op rest ih =>
    unfold Outbox.performAll
    simp only [bind_apply, pure_apply, List.map_cons, ho origin op h, ih]

lemma post_apply (o : Outbox σ) (message : IncomingMessage) (reply : PendingReply) (h : Host σ) :
    o.post message reply h =
      let done := o.perform message.originId (o.sending message reply) h
      (done.1.record?, done.2) := by
  rw [perform_apply]
  unfold post sending
  rcases o.defaults.placement message reply.options with ⟨thread, broadcast⟩
  dsimp only [request]
  rw [bind_apply]
  generalize o.driver.send _ = act
  rcases act.attempt h with ⟨result, h'⟩
  cases result <;> rfl

lemma whisper_apply (o : Outbox σ) (message : IncomingMessage) (reply : PendingReply)
    (userId : String) (h : Host σ) :
    o.whisper message reply userId h =
      ((), (o.perform message.originId (o.whispering message reply userId) h).2) := by
  rw [perform_apply]
  unfold whisper whispering
  rcases o.defaults.placement message reply.options with ⟨thread, broadcast⟩
  dsimp only [request]
  rw [bind_apply]
  generalize o.driver.whisper _ = act
  rcases act.attempt h with ⟨result, h'⟩
  cases result <;> rfl

lemma whispering_record? (o : Outbox σ) (message : IncomingMessage) (reply : PendingReply)
    (userId : String) (h : Host σ) :
    (o.perform message.originId (o.whispering message reply userId) h).1.record? = none := by
  rw [perform_apply]
  rcases (o.request (o.whispering message reply userId)).attempt h with ⟨result, h'⟩
  cases result <;> rfl

lemma revise_apply (o : Outbox σ) (origin : MessageId) {existing : Response}
    {reply : PendingReply} (hk : existing.action = reply.action) (h : Host σ) :
    let done := o.perform origin (revising existing reply) h
    done.1.record? = some (o.revise origin existing reply h).1 ∧
      (o.revise origin existing reply h).2 = done.2 := by
  obtain ⟨action, target⟩ := existing
  subst hk
  dsimp only
  rw [perform_apply]
  unfold revise revising
  rw [bind_apply]
  dsimp only [request]
  generalize o.driver.update _ _ _ = act
  rcases act.attempt h with ⟨result, h'⟩
  cases result <;> exact ⟨rfl, rfl⟩

lemma withdraw_apply (o : Outbox σ) (origin : MessageId) (response : Response) (h : Host σ) :
    let done := o.perform origin (.delete response.action response.message) h
    done.1.record? = (if (o.withdraw origin response h).1 then none else some response) ∧
      (o.withdraw origin response h).2 = done.2 := by
  dsimp only
  rw [perform_apply]
  unfold withdraw
  rw [bind_apply]
  dsimp only [request]
  generalize o.driver.delete _ = act
  rcases act.attempt h with ⟨result, h'⟩
  cases result <;> exact ⟨rfl, rfl⟩

lemma performAll_cons (o : Outbox σ) (origin : MessageId) (op : Operation)
    (rest : List Operation) (h : Host σ) :
    o.performAll origin (op :: rest) h =
      let done := o.perform origin op h
      let further := o.performAll origin rest done.2
      (done.1 :: further.1, further.2) := rfl

/-- Withdrawing earlier responses makes the calls that delete them, one after the other. -/
theorem withdrawAll_apply (o : Outbox σ) (origin : MessageId) (prior : List Response)
    (h : Host σ) :
    o.withdrawAll origin prior h =
      let done := o.performAll origin (withdrawals prior) h
      (recorded done.1, done.2) := by
  induction prior generalizing h with
  | nil => rfl
  | cons r rest ih =>
    obtain ⟨hrecord, hstate⟩ := o.withdraw_apply origin r h
    unfold withdrawAll
    simp only [withdrawals, List.map_cons, performAll_cons, bind_apply, pure_apply, recorded,
      List.filterMap_cons, hstate, hrecord] at ih ⊢
    rw [ih]
    cases (o.withdraw origin r h).1 <;> rfl

/-- Delivering replies and withdrawing what is left over makes the calls that the operations ask
for, one after the other. -/
theorem deliver_withdrawAll (o : Outbox σ) (message : IncomingMessage)
    (replies : List PendingReply) (previous : Earlier) (hk : Keyed previous) (h : Host σ) :
    let delivered := o.deliver message replies previous h
    let kept := o.withdrawAll message.originId (delivered.1.2.map (·.2)) delivered.2
    let done := o.performAll message.originId (o.operations message replies previous) h
    recorded done.1 = delivered.1.1 ++ kept.1 ∧ kept.2 = done.2 := by
  -- On the replies: each step makes one call, and an update takes its response out of `previous`.
  induction replies generalizing previous h with
  | nil =>
    simp only [deliver, operations, pure_apply, List.nil_append, withdrawAll_apply]
    exact ⟨trivial, trivial⟩
  | cons reply rest ih =>
    unfold deliver operations
    cases he : reply.options.ephemeralTo with
    | some userId =>
      have hi := ih previous hk
        (o.perform message.originId (o.whispering message reply userId) h).2
      simp only [performAll_cons, bind_apply, recorded, List.filterMap_cons, whisper_apply,
        whispering_record?] at hi ⊢
      exact hi
    | none =>
      cases hf : Entries.get? reply.action previous with
      | some existing =>
        have haction : existing.action = reply.action := hk _ (Entries.mem_of_get? hf)
        obtain ⟨hrecord, hstate⟩ := o.revise_apply message.originId haction h
        have hi := ih (Entries.erase reply.action previous) (hk.erase _)
          (o.perform message.originId (revising existing reply) h).2
        simp only [performAll_cons, bind_apply, pure_apply, recorded, List.filterMap_cons,
          hstate, hrecord, List.cons_append] at hi ⊢
        exact ⟨congrArg _ hi.1, hi.2⟩
      | none =>
        have hi := ih previous hk (o.perform message.originId (o.sending message reply) h).2
        simp only [performAll_cons, bind_apply, pure_apply, recorded, List.filterMap_cons,
          post_apply, List.append_assoc] at hi ⊢
        refine ⟨?_, hi.2⟩
        rw [← hi.1]
        cases (o.perform message.originId (o.sending message reply) h).1.record? <;> rfl

/-- Brings the posted messages in line with the replies, and says which calls were made. -/
def reconcileCalls (o : Outbox σ) (message : IncomingMessage) (replies : List PendingReply)
    (prior : List Response) : StateM (Host σ) (List Call) := do
  let calls ← o.performAll message.originId (o.operations message replies (earlier prior))
  let records := recorded calls
  if !(records.isEmpty && prior.isEmpty) then
    Host.record .debug "responses_recorded"
      [("origin", .str message.originId.text), ("responses", .int records.length)]
  return calls

/-- Reconciling records what its calls leave on record. -/
theorem reconcile_eq (o : Outbox σ) (message : IncomingMessage) (replies : List PendingReply)
    (prior : List Response) :
    o.reconcile message replies prior = recorded <$> o.reconcileCalls message replies prior := by
  funext h
  obtain ⟨hrecords, hstate⟩ :=
    o.deliver_withdrawAll message replies (earlier prior) (earlier_keyed prior) h
  unfold reconcile reconcileCalls
  simp only [map_apply, bind_apply, ← hrecords, hstate]
  split <;> rfl

lemma reconcileCalls_fst (o : Outbox σ) (message : IncomingMessage)
    (replies : List PendingReply) (prior : List Response) (h : Host σ) :
    (o.reconcileCalls message replies prior h).1 =
      (o.performAll message.originId (o.operations message replies (earlier prior)) h).1 := by
  unfold reconcileCalls
  simp only [bind_apply]
  split <;> rfl

/-! ### What operations touch and what goes on record -/

/-- The responses that operations change or delete, in order. -/
def touched (ops : List Operation) : List Response := ops.filterMap Operation.touched?

lemma touched_withdrawals (prior : List Response) : touched (withdrawals prior) = prior := by
  unfold touched withdrawals
  rw [List.filterMap_map]
  exact List.filterMap_some

/-- Whatever the replies, every earlier response is changed or deleted, and each once. -/
theorem touched_operations (o : Outbox σ) (message : IncomingMessage)
    (replies : List PendingReply) {previous : Earlier} (hk : Keyed previous)
    (hn : (previous.map Prod.fst).Nodup) :
    (touched (o.operations message replies previous)).Perm (previous.map (·.2)) := by
  induction replies generalizing previous with
  | nil => rw [operations, touched_withdrawals]
  | cons reply rest ih =>
    unfold operations
    cases he : reply.options.ephemeralTo with
    | some userId => exact ih hk hn
    | none =>
      cases hf : Entries.get? reply.action previous with
      | some existing =>
        have haction : existing.action = reply.action := hk _ (Entries.mem_of_get? hf)
        have hi := ih (hk.erase reply.action)
          (hn.sublist (Entries.keys_erase_sublist reply.action previous))
        have hfirst : (revising existing reply).touched? = some existing := by
          rw [revising, Operation.touched?, ← haction]
        have hall := (Entries.cons_erase_perm hn hf).map (·.2)
        unfold touched at hi ⊢
        rw [List.filterMap_cons_some hfirst]
        exact (hi.cons existing).trans hall
      | none => exact ih hk hn

/-- What is on record after calls was written by one of them, or touched by one that failed. -/
lemma mem_recorded {calls : List Call} {r : Response} (h : r ∈ recorded calls) :
    (∃ call ∈ calls, ∃ content, call.written? = some (r, content)) ∨
      r ∈ touched (calls.map (·.operation)) := by
  obtain ⟨⟨op, confirmation⟩, hcall, hr⟩ := List.mem_filterMap.mp h
  have htouched : ∀ r' ∈ op.touched?, r' ∈ touched (calls.map (·.operation)) := fun r' hr' =>
    List.mem_filterMap.mpr ⟨op, List.mem_map.mpr ⟨_, hcall, rfl⟩, hr'⟩
  cases op with
  | send action message =>
    cases confirmation with
    | none => cases hr
    | some id =>
      cases hr
      exact .inl ⟨_, hcall, _, rfl⟩
  | whisper action message => cases confirmation <;> cases hr
  | update action target text blocks =>
    cases confirmation with
    | none => exact .inr (htouched r hr)
    | some id =>
      cases hr
      exact .inl ⟨_, hcall, _, rfl⟩
  | delete action target =>
    cases confirmation with
    | none => exact .inr (htouched r hr)
    | some done => cases hr

lemma recorded_actions_sublist (calls : List Call) :
    ((recorded calls).map (·.action)).Sublist
      ((calls.map (·.operation)).filterMap Operation.recordable?) := by
  induction calls with
  | nil => exact .slnil
  | cons call rest ih =>
    obtain ⟨op, confirmation⟩ := call
    unfold recorded at ih ⊢
    cases op <;> cases confirmation
    case send.none => exact ih.cons _
    case delete.some => exact ih.cons _
    case whisper.none => exact ih
    case whisper.some => exact ih
    all_goals exact ih.cons_cons _

lemma mem_recordable {o : Outbox σ} {message : IncomingMessage} {replies : List PendingReply}
    {previous : Earlier} (hk : Keyed previous) {action : ActionId}
    (h : action ∈ (o.operations message replies previous).filterMap Operation.recordable?) :
    action ∈ replies.map (·.action) ∨ action ∈ previous.map Prod.fst := by
  induction replies generalizing previous with
  | nil =>
    right
    obtain ⟨op, hop, haction⟩ := List.mem_filterMap.mp h
    obtain ⟨r, hr, rfl⟩ := List.mem_map.mp hop
    obtain ⟨e, he, rfl⟩ := List.mem_map.mp hr
    cases haction
    exact List.mem_map.mpr ⟨e, he, (hk e he).symm⟩
  | cons reply rest ih =>
    unfold operations at h
    rw [List.map_cons, List.mem_cons]
    cases he : reply.options.ephemeralTo with
    | some userId =>
      rw [he] at h
      exact (ih hk h).imp_left .inr
    | none =>
      rw [he] at h
      cases hf : Entries.get? reply.action previous with
      | some existing =>
        rw [hf] at h
        rcases List.mem_cons.mp h with rfl | h
        · exact .inl (.inl rfl)
        · rcases ih (hk.erase _) h with h | h
          · exact .inl (.inr h)
          · exact .inr ((Entries.keys_erase_sublist reply.action previous).subset h)
      | none =>
        rw [hf] at h
        rcases List.mem_cons.mp h with rfl | h
        · exact .inl (.inl rfl)
        · exact (ih hk h).imp_left .inr

/-- Replies of different actions never leave two responses of one action on record. -/
theorem operations_recordable_nodup (o : Outbox σ) (message : IncomingMessage)
    {replies : List PendingReply} {previous : Earlier} (hk : Keyed previous)
    (hn : (previous.map Prod.fst).Nodup) (hr : (replies.map (·.action)).Nodup) :
    ((o.operations message replies previous).filterMap Operation.recordable?).Nodup := by
  induction replies generalizing previous with
  | nil =>
    have heq : (o.operations message [] previous).filterMap Operation.recordable? =
        previous.map Prod.fst := by
      unfold operations withdrawals
      rw [List.map_map, List.filterMap_map]
      rw [← List.filterMap_eq_map]
      apply List.filterMap_congr
      intro e he
      exact congrArg some (hk e he)
    rwa [heq]
  | cons reply rest ih =>
    rw [List.map_cons, List.nodup_cons] at hr
    unfold operations
    cases he : reply.options.ephemeralTo with
    | some userId => exact ih hk hn hr.2
    | none =>
      cases hf : Entries.get? reply.action previous with
      | some existing =>
        have hi := ih (hk.erase reply.action)
          (hn.sublist (Entries.keys_erase_sublist reply.action previous)) hr.2
        refine List.nodup_cons.mpr ⟨fun hmem => ?_, hi⟩
        rcases mem_recordable (hk.erase reply.action) hmem with h | h
        · exact hr.1 h
        · exact Entries.not_mem_keys_erase _ _ h
      | none =>
        refine List.nodup_cons.mpr ⟨fun hmem => ?_, ih hk hn hr.2⟩
        rcases mem_recordable hk hmem with h | h
        · exact hr.1 h
        · exact Entries.get?_eq_none_iff.mp hf h

end Outbox

end ChatEngine
