import ChatEngine.Proofs.MergedOptions
import ChatEngine.Proofs.PartitionedRuns

/-!
# Where replies go

The thread of a reply, whether it shows on the channel as well, and whether one user alone sees it
are told from the message, the options of the answer and the defaults: of all settings of a key the
last one counts (`AnswerOption.last?`), a message in a thread is answered there, and a direct
channel has no threads unless they are asked for. Delivering answers makes one call of the driver
for each of them, with exactly this destination.
-/

namespace ChatEngine
open Outbox

variable {σ : Type}

/-! ### Destinations -/

/-- Where a reply goes. -/
structure Destination where
  thread : Option String
  /-- Whether a reply in a thread shows on the channel as well. -/
  broadcast : Bool
  /-- The only user to see the reply. -/
  user : Option String
  deriving DecidableEq

namespace ReplyDefaults
open AnswerOption

/-- Whether options ask for a thread; direct channels have none by default. -/
def threads (defaults : ReplyDefaults) (message : IncomingMessage) (options : List AnswerOption) :
    Bool :=
  ((last? threadedKey options).map saysYes).getD (!message.isDirect && defaults.threaded)

/-- Whether options ask for a reply in a thread to show on the channel as well. -/
def broadcasts (defaults : ReplyDefaults) (options : List AnswerOption) : Bool :=
  ((last? broadcastKey options).map saysYes).getD defaults.broadcast

/-- The thread that an answer to a message goes to, if any: that of the message, whatever the
options; else one that is asked for, which is that of the original message unless it is named. -/
def thread (defaults : ReplyDefaults) (message : IncomingMessage) (options : List AnswerOption) :
    Option String :=
  match message.threadTimestamp.filter (!·.isEmpty) with
  | some thread => some thread
  | none =>
    if defaults.threads message options then
      some (((last? threadKey options).filter (!·.isEmpty)).getD message.originId.timestamp)
    else none

/-- Where an answer to a message goes. -/
def destination (defaults : ReplyDefaults) (message : IncomingMessage)
    (options : List AnswerOption) : Destination :=
  { thread := defaults.thread message options
    broadcast := (defaults.thread message options).isSome && defaults.broadcasts options
    user := (last? ephemeralKey options).filter (!·.isEmpty) }

end ReplyDefaults

namespace Outbox

/-- The operation that an answer to a message asks for: it is shown to one user, takes the place of
the earlier response of its action, or is sent, and goes where its options say. -/
inductive Delivers (o : Outbox σ) (message : IncomingMessage) (prior : List Response) :
    ActionId × Answer → Operation → Prop
  | whispers {action : ActionId} {answer : Answer} {userId : String}
      (user : (o.defaults.destination message answer.options).user = some userId) :
      Delivers o message prior (action, answer)
        (.whisper action { channel := message.channel, userId, text := answer.text
                           thread := (o.defaults.destination message answer.options).thread
                           blocks := answer.blocks })
  | changes {answer : Answer} {existing : Response}
      (user : (o.defaults.destination message answer.options).user = none)
      (recorded : existing ∈ prior) :
      Delivers o message prior (existing.action, answer)
        (.update existing.action existing.message answer.text answer.blocks)
  | sends {action : ActionId} {answer : Answer}
      (user : (o.defaults.destination message answer.options).user = none) :
      Delivers o message prior (action, answer)
        (.send action { channel := message.channel, text := answer.text
                        thread := (o.defaults.destination message answer.options).thread
                        broadcast := (o.defaults.destination message answer.options).broadcast
                        blocks := answer.blocks })

end Outbox

/-! ### Options of single replies -/

section
variable (defaults : ReplyDefaults) (message : IncomingMessage) (action : ActionId)
  (answer : Answer)

open AnswerOption

lemma last?_withoutThreading (key : String) :
    last? key [withoutThreading] = if key = threadedKey then some "false" else none := by
  by_cases h : key = threadedKey
  · subst h
    rfl
  · have h' : threadedKey ≠ key := fun heq => h heq.symm
    simp [last?, withoutThreading, h, h']

lemma last?_inExistingThread (key thread : String) :
    last? key [inExistingThread thread] =
      if key = threadKey then some thread else if key = threadedKey then some "true" else none := by
  by_cases hthread : key = threadKey
  · subst hthread
    rfl
  · have hthread' : threadKey ≠ key := fun h => hthread h.symm
    by_cases hthreaded : key = threadedKey
    · subst hthreaded
      rfl
    · have hthreaded' : threadedKey ≠ key := fun h => hthreaded h.symm
      simp [last?, inExistingThread, hthread, hthread', hthreaded, hthreaded']

/-- The rule for threads comes last, and the rule for direct channels first. -/
lemma last?_replySettings (key : String) :
    last? key (replySettings answer message) =
      match message.thread? with
      | some thread =>
        (if key = threadKey then some thread
          else if key = threadedKey then some "true" else none).or (last? key answer.options)
      | none => (last? key answer.options).or
        (if message.isDirect ∧ key = threadedKey then some "false" else none) := by
  unfold replySettings
  rw [last?_append, last?_append]
  cases message.thread? with
  | some thread =>
    rw [last?_inExistingThread]
    -- The rule for direct channels sets no key that the rule for threads leaves open.
    by_cases hkey : key = threadedKey
    · simp only [hkey, if_true]
      split <;> rfl
    · cases message.isDirect <;> simp [last?_nil, last?_withoutThreading, hkey]
  | none =>
    cases message.isDirect <;> simp [last?_nil, last?_withoutThreading]

/-- The rules leave the settings of all other keys as they are. -/
lemma last?_replySettings_of_ne {key : String} (hthread : key ≠ threadKey)
    (hthreaded : key ≠ threadedKey) :
    last? key (replySettings answer message) = last? key answer.options := by
  rw [last?_replySettings]
  cases message.thread? <;> simp [hthread, hthreaded]

lemma last?_replySettings_threadKey :
    last? threadKey (replySettings answer message) =
      message.thread?.or (last? threadKey answer.options) := by
  rw [last?_replySettings]
  have hne : threadKey ≠ threadedKey := by decide
  cases message.thread? <;> simp [hne]

lemma last?_replySettings_threadedKey :
    last? threadedKey (replySettings answer message) =
      if message.inThread then some "true"
      else (last? threadedKey answer.options).or
        (if message.isDirect then some "false" else none) := by
  rw [last?_replySettings, IncomingMessage.inThread]
  have hne : threadedKey ≠ threadKey := by decide
  cases message.thread? <;> simp [hne]

lemma threads_eq (options : List AnswerOption) :
    (((last? threadedKey options).or (if message.isDirect then some "false" else none)).map
        saysYes).getD defaults.threaded = defaults.threads message options := by
  have hno : saysYes "false" = false := by decide
  unfold ReplyDefaults.threads
  cases last? threadedKey options with
  | some value => rw [Option.some_or, Option.map_some, Option.getD_some, Option.getD_some]
  | none => cases message.isDirect <;> simp [hno]

/-- What the options of a reply come to. -/
lemma resolve_replySettings :
    ReplyOptions.resolve (replySettings answer message) =
      { threaded := if message.inThread then some true
          else ((last? threadedKey answer.options).or
            (if message.isDirect then some "false" else none)).map saysYes
        existingThread := (message.thread?.or (last? threadKey answer.options)).filter (!·.isEmpty)
        broadcast := (last? broadcastKey answer.options).map saysYes
        ephemeralTo := (last? ephemeralKey answer.options).filter (!·.isEmpty)
        extra := (merge (replySettings answer message)).filter (!knownKeys.contains ·.1) } := by
  have hyes : saysYes "true" = true := by decide
  unfold ReplyOptions.resolve ReplyOptions.ofSettings
  rw [get?_merge, get?_merge, get?_merge, get?_merge, last?_replySettings_threadKey,
    last?_replySettings_threadedKey,
    last?_replySettings_of_ne message answer (by decide) (by decide),
    last?_replySettings_of_ne message answer (by decide) (by decide)]
  cases message.inThread with
  | true => rw [if_pos rfl, if_pos rfl, Option.map_some, hyes]
  | false => rw [if_neg Bool.false_ne_true, if_neg Bool.false_ne_true]

lemma ephemeralTo_ofAnswer :
    (PendingReply.ofAnswer action answer message).options.ephemeralTo =
      (defaults.destination message answer.options).user := by
  rw [PendingReply.ofAnswer, resolve_replySettings, ReplyDefaults.destination]

lemma placement_ofAnswer :
    defaults.placement message (PendingReply.ofAnswer action answer message).options =
      ((defaults.destination message answer.options).thread,
        (defaults.destination message answer.options).broadcast) := by
  have hplace : message.threadTimestamp.filter (!·.isEmpty) = message.thread? := rfl
  unfold PendingReply.ofAnswer ReplyDefaults.placement ReplyDefaults.destination
    ReplyDefaults.thread ReplyDefaults.broadcasts
  rw [resolve_replySettings, IncomingMessage.inThread, hplace]
  obtain hthread | ⟨thread, hthread⟩ := message.thread?.eq_none_or_eq_some
  · simp only [hthread, Option.isSome_none, Bool.false_eq_true, if_false, threads_eq,
      Option.none_or, IncomingMessage.timestamp]
    split <;> rfl
  · have hnonempty : (some thread).filter (!·.isEmpty) = some thread := by
      rw [← hthread, IncomingMessage.thread?, Option.filter_filter]
      simp
    simp only [hthread, Option.isSome_some, if_true, Option.getD_some, Option.some_or, hnonempty,
      Bool.true_and]

end

/-! ### Delivery -/

namespace Outbox
variable (o : Outbox σ) (message : IncomingMessage)

lemma whispering_ofAnswer (prior : List Response) (action : ActionId) {answer : Answer}
    {userId : String} (user : (o.defaults.destination message answer.options).user = some userId) :
    o.Delivers message prior (action, answer)
      (o.whispering message (.ofAnswer action answer message) userId) := by
  unfold whispering
  rw [placement_ofAnswer]
  exact .whispers user

lemma sending_ofAnswer (prior : List Response) (action : ActionId) {answer : Answer}
    (user : (o.defaults.destination message answer.options).user = none) :
    o.Delivers message prior (action, answer)
      (o.sending message (.ofAnswer action answer message)) := by
  unfold sending
  rw [placement_ofAnswer]
  exact .sends user

/-- Answers are delivered one after the other, and then earlier responses are taken back. -/
theorem operations_ofAnswer {prior : List Response} (answers : List (ActionId × Answer))
    {previous : Earlier} (keyed : Keyed previous) (recorded : ∀ e ∈ previous, e.2 ∈ prior) :
    ∃ made left,
      o.operations message (answers.map fun a => .ofAnswer a.1 a.2 message) previous =
        made ++ withdrawals left ∧
      List.Forall₂ (o.Delivers message prior) answers made := by
  induction answers generalizing previous with
  | nil => exact ⟨[], _, rfl, .nil⟩
  | cons first rest ih =>
    obtain ⟨action, answer⟩ := first
    rw [List.map_cons, operations, ephemeralTo_ofAnswer o.defaults]
    cases user : (o.defaults.destination message answer.options).user with
    | some userId =>
      obtain ⟨made, left, hmade, hrest⟩ := ih keyed recorded
      have hfirst := whispering_ofAnswer o message prior action user
      exact ⟨_ :: made, left, congrArg _ hmade, .cons hfirst hrest⟩
    | none =>
      dsimp only
      cases hfound : Entries.get? (PendingReply.ofAnswer action answer message).action previous with
      | some existing =>
        have hmem := Entries.mem_of_get? hfound
        have haction : existing.action = action := keyed _ hmem
        obtain ⟨made, left, hmade, hrest⟩ := ih (keyed.erase action)
          fun e he => recorded e (List.mem_of_mem_filter he)
        refine ⟨_ :: made, left, congrArg _ hmade, .cons ?_ hrest⟩
        subst haction
        exact .changes user (recorded _ hmem)
      | none =>
        obtain ⟨made, left, hmade, hrest⟩ := ih keyed recorded
        have hfirst := sending_ofAnswer o message prior action user
        exact ⟨_ :: made, left, congrArg _ hmade, .cons hfirst hrest⟩

end Outbox

/-! ### Replies of a dialog -/

lemma Processor.originTimestamp_of_task {p : Processor σ} {event : MessageEvent}
    {message : IncomingMessage} (h : p.task event = .answer message) :
    event.originTimestamp = some message.originId.timestamp := by
  have horigin : p.origin? event = some message.originId := by rw [origin?, h]
  obtain ⟨hkind, hvalid, heq⟩ := origin?_cases horigin
  rw [← heq]
  exact congrArg MessageRef.timestamp (MessageEvent.originRef_of_valid hkind hvalid)

section
variable [Clocked σ]

lemma Dialog.gather_ofAnswer (message : IncomingMessage) (actions : List (RegisteredAction σ))
    (h : Host σ) :
    ∃ answers : List (ActionId × Answer),
      (gather message actions h).1 = answers.map fun a => .ofAnswer a.1 a.2 message := by
  induction actions generalizing h with
  | nil => exact ⟨[], rfl⟩
  | cons r rest ih =>
    obtain ⟨answers, hanswers⟩ := ih (r.tryAnswer message h).2
    rw [gather, bind_apply, bind_apply, hanswers]
    cases (r.tryAnswer message h).1 with
    | none => exact ⟨answers, rfl⟩
    | some answer => exact ⟨(r.id, answer) :: answers, rfl⟩

/-- All replies are made of answers, that to an unknown command included. -/
lemma Dialog.replies_ofAnswer (d : Dialog σ) (message : IncomingMessage) (h : Host σ) :
    ∃ answers : List (ActionId × Answer),
      (d.replies message h).1 = answers.map fun a => .ofAnswer a.1 a.2 message := by
  rw [replies, bind_apply]
  split
  · exact ⟨[(.fallback, { text := fallbackText })], rfl⟩
  · exact gather_ofAnswer message _ h

/-- What a transcript tells of a message that was shown to the actions. -/
lemma Processor.Handled.answers {p : Processor σ} {event : MessageEvent} {t next : ResponseTracker}
    {u : Transcript} (step : p.Handled event t u next) {message : IncomingMessage}
    {replies : List PendingReply} (answered : .answered message replies ∈ u) :
    p.task event = .answer message ∧ (∃ h, replies = (p.dialog.replies message h).1) ∧
      (u.callsFor message.originId).map (·.operation) =
        p.outbox.operations message replies (earlier (t.records message.originId)) := by
  cases step with
  | skipped => cases answered
  | unrecorded => cases answered
  | withdrawn =>
    rcases List.mem_append.mp answered with hcall | hevicted
    · obtain ⟨call, -, heq⟩ := List.mem_map.mp hcall
      cases heq
    · obtain ⟨origin, -, heq⟩ := List.mem_map.mp hevicted
      cases heq
  | answered asked later task_eq performed =>
    rcases List.mem_cons.mp answered with heq | hmem
    · cases heq
      rw [Transcript.callsFor_answered, Transcript.callsFor_recorded]
      exact ⟨task_eq, ⟨asked, rfl⟩, asked_of_performed performed⟩
    rcases List.mem_append.mp hmem with hcall | hevicted
    · obtain ⟨call, -, heq⟩ := List.mem_map.mp hcall
      cases heq
    · obtain ⟨origin, -, heq⟩ := List.mem_map.mp hevicted
      cases heq

/-- Replies go where the message, the options of their answers and the defaults tell: for all
answers that are delivered, and for those that processing an event delivers. The original message
that a thread is opened at is the one that the event is about. -/
theorem replies_go_where_told (p : Processor σ) :
    (∀ message (answers : List (ActionId × Answer)) prior,
      let replies := answers.map fun a => .ofAnswer a.1 a.2 message
      p.outbox.reconcile message replies prior =
        recorded <$> p.outbox.reconcileCalls message replies prior ∧
      ∀ h, ∃ made left,
        (p.outbox.reconcileCalls message replies prior h).1.map (·.operation) =
          made ++ withdrawals left ∧
        List.Forall₂ (p.outbox.Delivers message prior) answers made) ∧
    ∀ event s message replies, .answered message replies ∈ p.transcript event s →
      event.originTimestamp = some message.originId.timestamp ∧
      ∃ (answers : List (ActionId × Answer)) (made : List Operation) (left : List Response),
        replies = answers.map (fun a => .ofAnswer a.1 a.2 message) ∧
        ((p.transcript event s).callsFor message.originId).map (·.operation) =
          made ++ withdrawals left ∧
        List.Forall₂ (p.outbox.Delivers message (s.tracker.records message.originId))
          answers made := by
  constructor
  · intro message answers prior
    refine ⟨reconcile_eq _ _ _ _, fun h => ?_⟩
    rw [reconcileCalls_fst, performAll_operations]
    exact p.outbox.operations_ofAnswer message answers (earlier_keyed prior)
      fun e he => mem_of_mem_earlier he
  · intro event s message replies answered
    obtain ⟨htask, ⟨h, rfl⟩, hcalls⟩ := (p.observe_handled event s).answers answered
    obtain ⟨answers, hanswers⟩ := p.dialog.replies_ofAnswer message h
    obtain ⟨made, left, hmade, hdelivers⟩ := p.outbox.operations_ofAnswer message answers
      (earlier_keyed (s.tracker.records message.originId)) fun e he => mem_of_mem_earlier he
    refine ⟨Processor.originTimestamp_of_task htask, answers, made, left, hanswers, ?_, hdelivers⟩
    rw [hcalls, hanswers, hmade]

end

/-- On an edit the thread is that of the first version, and the last setting of the broadcast
counts. -/
example :
    let message : IncomingMessage :=
      { msgId := ⟨"C", "2"⟩, originId := ⟨"C", "1"⟩, userId := some "U", channel := "C"
        rawText := "hi", normalizedText := "hi" }
    ({} : ReplyDefaults).destination message
        [AnswerOption.inThreadWithBroadcast, AnswerOption.setting AnswerOption.broadcastKey "no"] =
      { thread := some "1", broadcast := false, user := none } := by
  decide

end ChatEngine
