import ChatEngine.Proofs.TrackedReplies

/-!
# Edited messages

Editing a message brings its replies to what a new message of the edited content gets: the same
actions have a response on record, in the same order, and each response shows what its action
replied. What was replied, recorded or missed before makes no difference. This is said of actions
that keep no state and do not look at how a message arrived.
-/

namespace ChatEngine
open Outbox

variable {σ : Type}

/-- The new message with the content that an edit gives to a message. -/
structure MessageEvent.Restates (fresh edit : MessageEvent) (sub : SubMessage) : Prop where
  edited : edit.edited = some sub
  kind : fresh.kind = .new
  channel : fresh.channel = edit.channel
  timestamp : fresh.timestamp = sub.timestamp
  text : fresh.text = sub.text
  userId : fresh.userId = if present sub.userId then sub.userId else edit.userId
  thread : fresh.threadTimestamp =
    if present sub.threadTimestamp then sub.threadTimestamp else edit.threadTimestamp

/-! ### What responses show -/

/-- What a message shows: its text and its blocks. -/
abbrev Content := String × Option (List Value)

/-- What a happening writes: for which original message, into which response, and what. -/
def Happening.written? : Happening → Option (MessageId × Response × Content)
  | .called origin call => call.written?.map fun w => (origin, w)
  | _ => none

/-- What was last written to answer an original message with a response. -/
def lastWritten (t : Transcript) (origin : MessageId) (r : Response) : Option Content :=
  ((t.filterMap Happening.written?).reverse.find? fun w => (w.1, w.2.1) = (origin, r)).map (·.2.2)

/-- What was last written into a message, whatever for. -/
def lastWrittenInto (t : Transcript) (id : MessageId) : Option Content :=
  ((t.filterMap Happening.written?).reverse.find? fun w => w.2.1.message = id).map (·.2.2)

/-- The responses on record for an original message: their actions and what they show. -/
def shown (t : Transcript) (tracker : ResponseTracker) (origin : MessageId) :
    List (ActionId × Option Content) :=
  (tracker.records origin).map fun r => (r.action, lastWritten t origin r)

/-- The same, where messages are told apart by their identities alone. -/
def shownById (t : Transcript) (tracker : ResponseTracker) (origin : MessageId) :
    List (ActionId × Option Content) :=
  (tracker.records origin).map fun r => (r.action, lastWrittenInto t r.message)

/-- What replies show to everybody, by action. -/
def contents (replies : List PendingReply) : List (ActionId × Content) :=
  (replies.filter fun r => r.options.ephemeralTo = none).map fun r =>
    (r.action, r.answer.text, r.answer.blocks)

/-- Whether a happening is no failed call. -/
def Happening.confirmed : Happening → Bool
  | .called _ call => call.succeeded
  | _ => true

lemma find?_reverse_append {α κ : Type} [DecidableEq κ] (key : α → κ) (xs : List α) {ys : List α}
    (hn : (ys.map key).Nodup) {y : α} (hy : y ∈ ys) :
    (xs ++ ys).reverse.find? (fun e => key e = key y) = some y := by
  have hfind : ∃ e, ys.reverse.find? (fun e => key e = key y) = some e := by
    rw [← Option.isSome_iff_exists, List.find?_isSome]
    exact ⟨y, List.mem_reverse.mpr hy, by simp⟩
  obtain ⟨e, he⟩ := hfind
  have hmem : e ∈ ys := List.mem_reverse.mp (List.mem_of_find?_eq_some he)
  have hkey : key e = key y := by simpa using List.find?_some he
  rw [List.reverse_append, List.find?_append, he, List.inj_on_of_nodup_map hn hmem hy hkey]
  rfl

/-! ### Calls that all succeed -/

lemma written_of_withdrawals {calls : List Call} {prior : List Response}
    (asked : calls.map (·.operation) = withdrawals prior) :
    calls.filterMap Call.written? = [] := by
  rw [List.filterMap_eq_nil_iff]
  intro call hcall
  have hop : call.operation ∈ withdrawals prior := asked ▸ List.mem_map_of_mem hcall
  obtain ⟨r, -, hr⟩ := List.mem_map.mp hop
  obtain ⟨op, confirmation⟩ := call
  cases hr
  cases confirmation <;> rfl

lemma recorded_of_succeeded {calls : List Call} (hall : ∀ call ∈ calls, call.succeeded) :
    recorded calls = (calls.filterMap Call.written?).map (·.1) := by
  unfold recorded
  rw [List.map_filterMap]
  apply List.filterMap_congr
  intro call hcall
  have hs := hall call hcall
  obtain ⟨op, confirmation⟩ := call
  cases op <;> cases confirmation
  case send.none => cases hs
  case whisper.none => cases hs
  case update.none => cases hs
  case delete.none => cases hs
  all_goals rfl

lemma written_of_reply (o : Outbox σ) {message : IncomingMessage} {reply : PendingReply}
    {call : Call} (hs : call.succeeded)
    (hop : call.operation = o.sending message reply ∨
      ∃ existing, call.operation = revising existing reply) :
    ∃ id, call.written? = some (⟨reply.action, id⟩, reply.answer.text, reply.answer.blocks) := by
  obtain ⟨op, confirmation⟩ := call
  rcases hop with hop | ⟨existing, hop⟩
  all_goals
    dsimp only at hop
    subst hop
    cases confirmation with
    | none => cases hs
    | some id => exact ⟨id, rfl⟩

/-- Where all calls succeed, what was written is what the replies show to everybody. -/
lemma written_of_succeeded (o : Outbox σ) (message : IncomingMessage)
    {replies : List PendingReply} {previous : Earlier} {calls : List Call}
    (asked : calls.map (·.operation) = o.operations message replies previous)
    (hall : ∀ call ∈ calls, call.succeeded) :
    (calls.filterMap Call.written?).map (fun w => (w.1.action, w.2)) = contents replies := by
  induction replies generalizing previous calls with
  | nil =>
    rw [written_of_withdrawals asked]
    rfl
  | cons reply rest ih =>
    unfold operations at asked
    cases he : reply.options.ephemeralTo with
    | some userId =>
      rw [he] at asked
      obtain ⟨call, later, rfl, hop, hlater⟩ := List.map_eq_cons_iff.mp asked
      have hrest := ih hlater fun c hc => hall c (List.mem_cons_of_mem _ hc)
      have hnone : call.written? = none := by
        obtain ⟨op, confirmation⟩ := call
        cases hop
        cases confirmation <;> rfl
      rw [List.filterMap_cons_none hnone, hrest, contents, contents,
        List.filter_cons_of_neg (by simp [he])]
    | none =>
      have hshown : contents (reply :: rest) =
          (reply.action, reply.answer.text, reply.answer.blocks) :: contents rest := by
        rw [contents, contents, List.filter_cons_of_pos (by simp [he]), List.map_cons]
      obtain ⟨call, later, left, rfl, hop, hlater⟩ : ∃ call later left, calls = call :: later ∧
          (call.operation = o.sending message reply ∨
            ∃ existing, call.operation = revising existing reply) ∧
          later.map (·.operation) = o.operations message rest left := by
        rw [he] at asked
        cases hf : Entries.get? reply.action previous with
        | some existing =>
          rw [hf] at asked
          obtain ⟨call, later, rfl, hop, hlater⟩ := List.map_eq_cons_iff.mp asked
          exact ⟨call, later, _, rfl, .inr ⟨existing, hop⟩, hlater⟩
        | none =>
          rw [hf] at asked
          obtain ⟨call, later, rfl, hop, hlater⟩ := List.map_eq_cons_iff.mp asked
          exact ⟨call, later, _, rfl, .inl hop, hlater⟩
      obtain ⟨id, hid⟩ := written_of_reply o (hall call List.mem_cons_self) hop
      have hrest := ih hlater fun c hc => hall c (List.mem_cons_of_mem _ hc)
      rw [List.filterMap_cons_some hid, List.map_cons, hrest, hshown]

/-! ### What is shown after a message was answered -/

/-- The last happenings wrote the responses that are now on record for an original message. -/
structure Wrote (t : Transcript) (tracker : ResponseTracker) (origin : MessageId)
    (writes : List (Response × Content)) : Prop where
  records : tracker.records origin = writes.map (·.1)
  last : ∃ before, t.filterMap Happening.written? = before ++ writes.map fun w => (origin, w)
  apart : (writes.map (·.1.action)).Nodup

lemma Wrote.find {t : Transcript} {tracker : ResponseTracker} {origin : MessageId}
    {writes : List (Response × Content)} (h : Wrote t tracker origin writes) {κ : Type}
    [DecidableEq κ] (key : MessageId × Response × Content → κ)
    (hn : (writes.map fun w => key (origin, w)).Nodup) {w : Response × Content} (hw : w ∈ writes) :
    (t.filterMap Happening.written?).reverse.find? (fun e => key e = key (origin, w)) =
      some (origin, w) := by
  obtain ⟨before, hlast⟩ := h.last
  rw [hlast]
  refine find?_reverse_append key before ?_ (List.mem_map_of_mem hw)
  rwa [List.map_map]

lemma Wrote.shown_eq {t : Transcript} {tracker : ResponseTracker} {origin : MessageId}
    {writes : List (Response × Content)} (h : Wrote t tracker origin writes) :
    shown t tracker origin = writes.map fun w => (w.1.action, some w.2) := by
  have hn : (writes.map fun w => (origin, w.1)).Nodup := by
    have hactions : ((writes.map fun w => (origin, w.1)).map fun q => q.2.action).Nodup := by
      rw [List.map_map]
      exact h.apart
    exact hactions.of_map
  unfold shown
  rw [h.records, List.map_map]
  apply List.map_congr_left
  intro w hw
  have hfind := h.find (fun e => (e.1, e.2.1)) hn hw
  simp only [Function.comp_apply, lastWritten, hfind, Option.map_some]

lemma Wrote.shownById_eq {t : Transcript} {tracker : ResponseTracker} {origin : MessageId}
    {writes : List (Response × Content)} (h : Wrote t tracker origin writes)
    (hn : ((tracker.records origin).map (·.message)).Nodup) :
    shownById t tracker origin = writes.map fun w => (w.1.action, some w.2) := by
  rw [h.records, List.map_map] at hn
  unfold shownById
  rw [h.records, List.map_map]
  apply List.map_congr_left
  intro w hw
  have hfind := h.find (fun e => e.2.1.message) hn hw
  simp only [Function.comp_apply, lastWrittenInto, hfind, Option.map_some]

lemma written_evictions (t : ResponseTracker) (origin : MessageId) (responses : List Response) :
    (Processor.evictions t origin responses).filterMap Happening.written? = [] := by
  unfold Processor.evictions
  cases (t.get origin).2.displaced? origin responses <;> rfl

lemma written_calls (origin : MessageId) (calls : List Call) :
    (calls.map (.called origin)).filterMap Happening.written? =
      (calls.filterMap Call.written?).map fun w => (origin, w) := by
  rw [List.filterMap_map, List.map_filterMap]
  rfl

/-- Answering a message with calls that all succeed writes what the replies show to everybody. -/
theorem Processor.Handled.wrote [Clocked σ] {p : Processor σ} {event : MessageEvent}
    {tracker next : ResponseTracker} {u : Transcript} (step : p.Handled event tracker u next)
    (hsound : tracker.Sound) (hd : p.dialog.IdsApart) {message : IncomingMessage}
    (htask : p.task event = .answer message)
    (hall : ∀ x ∈ u, x.confirmed) (t : Transcript) :
    ∃ host writes, Wrote (t ++ u) next message.originId writes ∧
      writes.map (fun w => (w.1.action, w.2)) = contents (p.dialog.replies message host).1 := by
  cases step with
  | skipped task_eq => rw [task_eq] at htask; cases htask
  | unrecorded task_eq => rw [task_eq] at htask; cases htask
  | withdrawn _ task_eq => rw [task_eq] at htask; cases htask
  | @answered shownMessage calls host later task_eq performed =>
    rw [task_eq] at htask
    cases htask
    have asked := asked_of_performed performed
    have hsucceeded : ∀ call ∈ calls, call.succeeded := fun call hcall =>
      hall (.called message.originId call) (by simp [hcall])
    have hwritten := written_of_succeeded p.outbox message asked hsucceeded
    have hrecorded := recorded_of_succeeded hsucceeded
    refine ⟨host, calls.filterMap Call.written?, ⟨?_, ⟨t.filterMap Happening.written?, ?_⟩, ?_⟩,
      hwritten⟩
    · unfold Processor.rerecorded
      rw [ResponseTracker.records_put (hsound.get _), if_pos rfl, hrecorded]
    · have hanswered : Happening.written?
          (.answered message (p.dialog.replies message host).1) = none := rfl
      rw [List.filterMap_append, List.filterMap_cons_none hanswered, List.filterMap_append,
        written_calls, written_evictions, List.append_nil]
    · have hactions := (p.outbox.operations_recordable_nodup message (earlier_keyed _)
        (earlier_nodup (tracker.records message.originId))
        (Dialog.replies_actions_nodup hd message host)).sublist
          (asked ▸ recorded_actions_sublist calls)
      rwa [hrecorded, List.map_map] at hactions

/-! ### An edit and the new message that restates it -/

lemma Processor.task_of_incoming {p : Processor σ} {event : MessageEvent}
    {message : IncomingMessage} (hkind : event.kind = .new ∨ event.kind = .edit)
    (hvalid : event.validate = .ok ()) (hview : p.dialog.incoming event = .ok (some message))
    (hown : p.dialog.isOwn event message = false) : p.task event = .answer message := by
  unfold task
  rcases hkind with hk | hk <;> simp [hk, hvalid, hview, hown]

lemma Processor.process_of_incoming [Clocked σ] {p : Processor σ} {event : MessageEvent}
    {message : IncomingMessage} (hkind : event.kind = .new ∨ event.kind = .edit)
    (hvalid : event.validate = .ok ()) (hview : p.dialog.incoming event = .ok (some message))
    (s : State σ) : (p.process event s).1 = .ok () := by
  obtain ⟨hignored, hdelete⟩ := (MessageKind.shown_iff _).mp hkind
  unfold process processMessage
  simp only [if_neg hignored, hvalid, hdelete, hview, bind_apply, timed_apply, if_false]
  split <;> rfl

lemma Dialog.isOwn_eq_false {d : Dialog σ} {event : MessageEvent} {message : IncomingMessage}
    (h : ∀ i ∈ d.identity, message.userId ≠ i.userId ∧ event.botId ≠ i.userId) :
    d.isOwn event message = false := by
  unfold isOwn
  cases hi : d.identity with
  | none => rfl
  | some i => simpa using h i hi

namespace MessageEvent.Restates

variable {edit fresh : MessageEvent} {sub : SubMessage}

lemma originId_eq (h : fresh.Restates edit sub) (hedit : edit.kind = .edit) :
    fresh.originId = edit.originId := by
  simp [originId, originRef, originTimestamp, h.kind, hedit, h.edited, h.channel, h.timestamp]

lemma validate_eq (h : fresh.Restates edit sub) (hedit : edit.kind = .edit)
    (hvalid : edit.validate = .ok ()) : fresh.validate = .ok () := by
  unfold validate at hvalid ⊢
  simp only [hedit, h.edited, h.kind, h.channel, h.timestamp, Option.bind_some] at hvalid ⊢
  split at hvalid
  · cases hvalid
  · next hparts =>
    split at hvalid
    · next htimestamp =>
      have hchannel : present edit.channel = true := by
        simp only [Bool.or_eq_true, not_or] at hparts
        simpa using hparts.1
      simp [hchannel, htimestamp]
    · cases hvalid

lemma incoming (h : fresh.Restates edit sub) (hedit : edit.kind = .edit) {text : String}
    (htext : sub.text = some text) (d : Dialog σ) :
    ∃ m m', d.incoming edit = .ok (some m) ∧ d.incoming fresh = .ok (some m') ∧ m.Alike m' ∧
      m.originId = edit.originId ∧ m.userId = fresh.userId := by
  have hkind : edit.kind ≠ .delete := by simp [hedit]
  have hfresh : fresh.kind ≠ .delete := by simp [h.kind]
  have hedited : edit.resolvedText = some text := by simp [resolvedText, hedit, h.edited, htext]
  have hnew : fresh.resolvedText = some text := by simp [resolvedText, h.kind, h.text, htext]
  refine ⟨_, _, by rw [Dialog.incoming, if_neg hkind, hedited],
    by rw [Dialog.incoming, if_neg hfresh, hnew], ?_, rfl, ?_⟩
  · refine ⟨fresh.msgRef.id, fresh.subtype, fresh.payload, ?_⟩
    simp [h.originId_eq hedit, resolvedUser, resolvedThread, firstPresent, hedit, h.edited, h.kind,
      h.userId, h.thread, msgRef, MessageRef.id, h.channel]
  · simp [resolvedUser, firstPresent, hedit, h.edited, h.userId]

end MessageEvent.Restates

lemma Accounted.messages_nodup {ι : Type} {owner : MessageId → ι} {t : Transcript}
    {tracker : ResponseTracker} (h : Accounted t tracker) (hid : Identifies owner t)
    (origin : MessageId) : ((tracker.records origin).map (·.message)).Nodup := by
  have hlive := ofOrigin_owners_nodup (live_owners_nodup hid) origin
  have hrecords := ((h.records origin).map fun r => owner r.message).nodup_iff.mp hlive
  rw [← Function.comp_def, ← List.map_map] at hrecords
  exact hrecords.of_map

/-- An edit and the new message that restates it write the same for the same actions. -/
lemma Processor.wrote_restated [Clocked σ] {p p' : Processor σ} (hdialog : p'.dialog = p.dialog)
    (hd : p.dialog.IdsApart) {edit fresh : MessageEvent} {sub : SubMessage} {text : String}
    (hedit : edit.kind = .edit) (hvalid : edit.validate = .ok ())
    (hfresh : fresh.Restates edit sub) (htext : sub.text = some text)
    (hown : ∀ i ∈ p.dialog.identity,
      fresh.userId ≠ i.userId ∧ edit.botId ≠ i.userId ∧ fresh.botId ≠ i.userId)
    (hsteady : ∀ m, p.dialog.incoming edit = .ok (some m) →
      ∀ r ∈ p.dialog.candidates m, r.Steady)
    {s s' : State σ} (hsound : s.tracker.Sound) (hsound' : s'.tracker.Sound)
    (hcalls : ∀ x ∈ p.transcript edit s, x.confirmed)
    (hcalls' : ∀ x ∈ p'.transcript fresh s', x.confirmed)
    (t t' : Transcript) :
    (p.process edit s).1 = .ok () ∧ (p'.process fresh s').1 = .ok () ∧
      ∃ writes writes',
        Wrote (t ++ p.transcript edit s) (p.process edit s).2.tracker edit.originId writes ∧
        Wrote (t' ++ p'.transcript fresh s') (p'.process fresh s').2.tracker edit.originId writes' ∧
        writes.map (fun w => (w.1.action, w.2)) = writes'.map (fun w => (w.1.action, w.2)) := by
  obtain ⟨m, m', hview, hview', halike, horigin, huser⟩ := hfresh.incoming hedit htext p.dialog
  obtain ⟨horigin', huser'⟩ : m'.originId = m.originId ∧ m'.userId = m.userId := by
    obtain ⟨_, _, _, rfl⟩ := halike
    exact ⟨rfl, rfl⟩
  have hown' : p.dialog.isOwn edit m = false := Dialog.isOwn_eq_false fun i hi => by
    rw [huser]
    exact ⟨(hown i hi).1, (hown i hi).2.1⟩
  have hother : p'.dialog.isOwn fresh m' = false := Dialog.isOwn_eq_false fun i hi => by
    rw [hdialog] at hi
    rw [huser', huser]
    exact ⟨(hown i hi).1, (hown i hi).2.2⟩
  rw [← hdialog] at hview'
  have hvalid' := hfresh.validate_eq hedit hvalid
  have htask := task_of_incoming (.inr hedit) hvalid hview hown'
  have htask' := task_of_incoming (.inl hfresh.kind) hvalid' hview' hother
  have hd' : p'.dialog.IdsApart := hdialog ▸ hd
  obtain ⟨host, writes, hwrote, hcontents⟩ :=
    (p.observe_handled edit s).wrote hsound hd htask hcalls t
  obtain ⟨host', writes', hwrote', hcontents'⟩ :=
    (p'.observe_handled fresh s').wrote hsound' hd' htask' hcalls' t'
  have hreplies := Dialog.replies_fst (hsteady m hview) halike host host'
  rw [← process_state, horigin] at hwrote
  rw [← process_state, horigin', horigin] at hwrote'
  rw [hdialog] at hcontents'
  refine ⟨process_of_incoming (.inr hedit) hvalid hview s,
    process_of_incoming (.inl hfresh.kind) hvalid' hview' s', writes, writes', hwrote, hwrote', ?_⟩
  rw [hcontents, hcontents', hreplies]

/-- Processing an edit whose calls all succeed leaves the original message with the responses that
its new content gets as a new message: of the same actions, in the same order, and showing the same.
It makes no difference what happened before, in which states the two are processed, and which
identities the messages have. -/
theorem edit_forgets_history [Clocked σ] {registry : PluginRegistry σ} {outbox outbox' : Outbox σ}
    {capacity capacity' : Int} {t t' : Transcript} {s s' : Processor.State σ}
    (built : registry.Built) (reached : Reached registry outbox capacity t s)
    (reached' : Reached registry outbox' capacity' t' s') (identity : Option Identity)
    {edit fresh : MessageEvent} {sub : SubMessage} {text : String} (hedit : edit.kind = .edit)
    (hvalid : edit.validate = .ok ()) (hfresh : fresh.Restates edit sub)
    (htext : sub.text = some text)
    (hown : ∀ i ∈ identity,
      fresh.userId ≠ i.userId ∧ edit.botId ≠ i.userId ∧ fresh.botId ≠ i.userId)
    (hsteady : ∀ m, (registry.processor outbox identity).dialog.incoming edit = .ok (some m) →
      ∀ r ∈ (registry.processor outbox identity).dialog.candidates m, r.Steady)
    (hcalls : ∀ x ∈ (registry.processor outbox identity).transcript edit s, x.confirmed)
    (hcalls' : ∀ x ∈ (registry.processor outbox' identity).transcript fresh s', x.confirmed) :
    let edited := (registry.processor outbox identity).process edit s
    let anew := (registry.processor outbox' identity).process fresh s'
    let told := t ++ (registry.processor outbox identity).transcript edit s
    let toldAnew := t' ++ (registry.processor outbox' identity).transcript fresh s'
    edited.1 = .ok () ∧ anew.1 = .ok () ∧
      shown told edited.2.tracker edit.originId = shown toldAnew anew.2.tracker edit.originId ∧
      (∀ c ∈ shown told edited.2.tracker edit.originId, c.2.isSome) ∧
      ∀ (ι : Type) (owner owner' : MessageId → ι), Identifies owner told →
        Identifies owner' toldAnew →
        shownById told edited.2.tracker edit.originId =
          shownById toldAnew anew.2.tracker edit.originId := by
  intro edited anew told toldAnew
  have hreached := reached.process identity edit
  have hreached' := reached'.process identity fresh
  have hdialog : (registry.processor outbox' identity).dialog =
      (registry.processor outbox identity).dialog := rfl
  obtain ⟨hok, hok', writes, writes', hwrote, hwrote', hsame⟩ :=
    Processor.wrote_restated hdialog (built.idsApart outbox identity) hedit hvalid hfresh htext
      hown hsteady reached.sound reached'.sound hcalls hcalls' t t'
  have hshows : writes.map (fun w => (w.1.action, some w.2)) =
      writes'.map (fun w => (w.1.action, some w.2)) := by
    have hmap := congrArg (List.map fun c : ActionId × Content => (c.1, some c.2)) hsame
    rwa [List.map_map, List.map_map] at hmap
  -- What is shown is what the last event wrote, and both events wrote the same.
  refine ⟨hok, hok', hwrote.shown_eq.trans (hshows.trans hwrote'.shown_eq.symm), ?_, ?_⟩
  · intro c hc
    rw [hwrote.shown_eq] at hc
    obtain ⟨w, -, rfl⟩ := List.mem_map.mp hc
    rfl
  · intro ι owner owner' hid hid'
    have hmessages := (hreached.accounted built hid).messages_nodup hid edit.originId
    have hmessages' := (hreached'.accounted built hid').messages_nodup hid' edit.originId
    exact (hwrote.shownById_eq hmessages).trans
      (hshows.trans (hwrote'.shownById_eq hmessages').symm)

namespace Echo

def missed : Transcript × Processor.State Simulation.Workspace :=
  processor.processAll [said "1" "hi", changed "1" "bye"] ⟨tracker, host⟩

end Echo

/-- After a missed change, changing the greeting back shows what the greeting shows anew. -/
theorem edit_after_missed_change :
    Reached Echo.registry Echo.outbox 1 Echo.missed.1 Echo.missed.2 ∧
      (Echo.said "1" "hi").Restates (Echo.changed "1" "hi")
        { timestamp := some "1", text := some "hi" } ∧
      (∀ x ∈ Echo.processor.transcript (Echo.changed "1" "hi") Echo.missed.2, x.confirmed) ∧
      (∀ x ∈ Echo.processor.transcript (Echo.said "1" "hi") ⟨Echo.tracker, Echo.host⟩,
        x.confirmed) ∧
      shown (Echo.missed.1 ++ Echo.processor.transcript (Echo.changed "1" "hi") Echo.missed.2)
        (Echo.processor.process (Echo.changed "1" "hi") Echo.missed.2).2.tracker
        (Echo.changed "1" "hi").originId =
      shown ([] ++ Echo.processor.transcript (Echo.said "1" "hi") ⟨Echo.tracker, Echo.host⟩)
        (Echo.processor.process (Echo.said "1" "hi") ⟨Echo.tracker, Echo.host⟩).2.tracker
        (Echo.changed "1" "hi").originId ∧
      ((Echo.processor.process (Echo.changed "1" "hi") Echo.missed.2).2.tracker.records
        ⟨"C", "1"⟩).map (·.action) = [⟨"echo", .hear, 0⟩, ⟨"echo", .hear, 1⟩] := by
  have hreached : Reached Echo.registry Echo.outbox 1 Echo.missed.1 Echo.missed.2 :=
    Echo.started.processAll Echo.identity [Echo.said "1" "hi", Echo.changed "1" "bye"]
  have hrestates : (Echo.said "1" "hi").Restates (Echo.changed "1" "hi")
      { timestamp := some "1", text := some "hi" } :=
    ⟨rfl, by decide +kernel, rfl, rfl, rfl, by decide +kernel, by decide +kernel⟩
  have hcalls : ∀ x ∈ Echo.processor.transcript (Echo.changed "1" "hi") Echo.missed.2,
      x.confirmed := by decide +kernel
  have hcalls' : ∀ x ∈ Echo.processor.transcript (Echo.said "1" "hi") ⟨Echo.tracker, Echo.host⟩,
      x.confirmed := by decide +kernel
  have hsteady : ∀ m, Echo.processor.dialog.incoming (Echo.changed "1" "hi") = .ok (some m) →
      ∀ r ∈ Echo.processor.dialog.candidates m, r.Steady := by
    intro m hm r hr
    have hcommand : Echo.processor.dialog.isCommand m = false := by
      cases hm
      decide +kernel
    rw [Dialog.candidates, hcommand] at hr
    exact Echo.hearActions_steady hr
  have hown : ∀ i ∈ Echo.identity, (Echo.said "1" "hi").userId ≠ i.userId ∧
      (Echo.changed "1" "hi").botId ≠ i.userId ∧ (Echo.said "1" "hi").botId ≠ i.userId := by
    intro i hi
    cases hi
    decide +kernel
  have h := (edit_forgets_history Echo.registry_built hreached Echo.started Echo.identity
    (by decide +kernel) (by decide +kernel) hrestates rfl hown hsteady hcalls hcalls').2.2.1
  rw [Echo.processor_eq] at h
  exact ⟨hreached, hrestates, hcalls, hcalls', h, by decide +kernel⟩

end ChatEngine
