import ChatEngine.Proofs.LiveReplies
import ChatEngine.Proofs.SteadyActions

/-!
# The tracker and the live replies

After every event the tracker holds exactly the live replies: each once, no two of one action, and
under the original message that they answer. Hence whatever is changed or deleted later is a reply
that still stands. The invariant `Accounted` says both; one event keeps it by the cases of
`Handled`.
-/

namespace ChatEngine
open Outbox

variable {σ ι : Type} {owner : MessageId → ι}

/-- The tracker holds the live replies, and live replies are all that was ever touched. -/
structure Accounted (t : Transcript) (tracker : ResponseTracker) : Prop where
  records : ∀ origin, (liveReplies t origin).Perm (tracker.records origin)
  distinct : ∀ origin, ((tracker.records origin).map (·.action)).Nodup
  touches : TouchesLive t

lemma Accounted.empty {capacity : Int} {tracker : ResponseTracker}
    (h : ResponseTracker.create? capacity = some tracker) : Accounted [] tracker where
  records origin := by
    rw [ResponseTracker.create?_records h]
    exact .nil
  distinct origin := by
    rw [ResponseTracker.create?_records h]
    exact List.nodup_nil
  touches := .nil

lemma Accounted.answered {t : Transcript} {tracker : ResponseTracker} (h : Accounted t tracker)
    (message : IncomingMessage) (replies : List PendingReply) :
    Accounted (t ++ [.answered message replies]) tracker where
  records origin := by
    rw [liveReplies, live_concat_answered]
    exact h.records origin
  distinct := h.distinct
  touches := h.touches.concat _ fun _ _ he => by cases he

lemma liveReplies_evictions (t : Transcript) (displaced : Option MessageId) (origin : MessageId) :
    liveReplies (t ++ displaced.toList.map .evicted) origin =
      if displaced = some origin then [] else liveReplies t origin := by
  cases displaced with
  | none => simp
  | some gone =>
    rw [Option.toList_some, List.map_singleton, liveReplies, live_concat_evicted, ofOrigin,
      List.filter_filter, liveReplies, ofOrigin]
    by_cases hg : gone = origin
    · subst hg
      simp
    · have hg' : some gone ≠ some origin := fun h => hg (Option.some.inj h)
      rw [if_neg hg']
      congr 1
      apply List.filter_congr
      intro p _
      by_cases hp : p.1 = origin
      · have hne : p.1 ≠ gone := fun h => hg (h.symm.trans hp)
        simp [hp, hp ▸ hne]
      · simp [hp]

lemma TouchesLive.evictions {t : Transcript} (h : TouchesLive t) (displaced : Option MessageId) :
    TouchesLive (t ++ displaced.toList.map .evicted) := by
  cases displaced with
  | none => simpa using h
  | some gone => exact h.concat _ fun _ _ he => by cases he

lemma Accounted.rerecord {t : Transcript} {tracker : ResponseTracker} (h : Accounted t tracker)
    (hsound : tracker.Sound) (origin : MessageId) (calls : List Call)
    (hid : Identifies owner (t ++ calls.map (.called origin)))
    (htouch : (touched (calls.map (·.operation))).Perm (tracker.records origin))
    (hn : ((recorded calls).map (·.action)).Nodup) :
    Accounted (t ++ (calls.map (.called origin) ++
        Processor.evictions tracker origin (recorded calls)))
      (Processor.rerecorded tracker origin (recorded calls)) := by
  have hall : (liveReplies t origin).Perm (touched (calls.map (·.operation)) ++ []) := by
    rw [List.append_nil]
    exact (h.records origin).trans htouch.symm
  obtain ⟨hown, hothers, htouches⟩ := live_calls origin calls [] hid hall h.touches
  have hget := hsound.get origin
  unfold Processor.evictions Processor.rerecorded
  rw [← List.append_assoc]
  refine ⟨?_, ?_, htouches.evictions _⟩
  · intro k
    -- The tracker forgets the displaced origin exactly when the transcript says so.
    rw [liveReplies_evictions, ResponseTracker.records_put hget, ResponseTracker.records_get]
    by_cases hk : k = origin
    · subst hk
      rw [if_pos rfl, if_neg fun hd => ResponseTracker.displaced?_ne hd rfl]
      simpa using hown
    · rw [if_neg hk, hothers k hk]
      split_ifs
      · exact .nil
      · exact h.records k
  · intro k
    rw [ResponseTracker.records_put hget, ResponseTracker.records_get]
    split_ifs
    · exact hn
    · exact List.nodup_nil
    · exact h.distinct k

lemma earlier_responses {prior : List Response} (h : (prior.map (·.action)).Nodup) :
    (earlier prior).map (·.2) = prior := by
  rw [earlier_of_nodup h, List.map_map]
  exact List.map_id' prior

/-- One event keeps the tracker and the live replies in step. -/
theorem Accounted.handled [Clocked σ] {p : Processor σ} {event : MessageEvent} {t u : Transcript}
    {tracker next : ResponseTracker} (h : Accounted t tracker) (hsound : tracker.Sound)
    (hd : p.dialog.IdsApart) (step : p.Handled event tracker u next)
    (hid : Identifies owner (t ++ u)) : Accounted (t ++ u) next := by
  cases step with
  | skipped => rwa [List.append_nil]
  | unrecorded => rwa [List.append_nil]
  | @withdrawn origin prior calls host _ present performed =>
    have asked := asked_of_performed performed
    have hrecords : tracker.records origin = prior := by
      rw [ResponseTracker.records, present, Option.getD_some]
    have hdistinct := h.distinct origin
    rw [← List.append_assoc] at hid
    refine h.rerecord hsound origin calls hid.of_append ?_ ?_
    · rw [asked, touched_withdrawals, hrecords]
    · have hactions : (calls.map (·.operation)).filterMap Operation.recordable? =
          prior.map (·.action) := by
        rw [asked, withdrawals, List.filterMap_map, ← List.filterMap_eq_map]
        rfl
      refine List.Nodup.sublist (recorded_actions_sublist calls) ?_
      rw [hactions, ← hrecords]
      exact hdistinct
  | @answered message calls host later _ performed =>
    have asked := asked_of_performed performed
    have hdistinct := h.distinct message.originId
    have hprior := earlier_nodup (tracker.records message.originId)
    have hreplies := Dialog.replies_actions_nodup hd message host
    rw [List.append_cons] at hid ⊢
    rw [← List.append_assoc] at hid
    refine (h.answered message _).rerecord hsound message.originId calls hid.of_append ?_ ?_
    · rw [asked]
      have htouch := p.outbox.touched_operations message (p.dialog.replies message host).1
        (earlier_keyed (tracker.records message.originId)) hprior
      rwa [earlier_responses hdistinct] at htouch
    · refine List.Nodup.sublist (recorded_actions_sublist calls) ?_
      rw [asked]
      exact p.outbox.operations_recordable_nodup message (earlier_keyed _) hprior hreplies

/-- Every run from an empty tracker keeps the tracker and the live replies in step. -/
theorem Reached.accounted [Clocked σ] {registry : PluginRegistry σ} {outbox : Outbox σ}
    {capacity : Int} {t : Transcript} {s : Processor.State σ} (built : registry.Built)
    (h : Reached registry outbox capacity t s) (hid : Identifies owner t) :
    Accounted t s.tracker := by
  induction h with
  | start host created => exact .empty created
  | @process t s before identity event ih =>
    rw [Processor.process_state]
    exact (ih hid.of_append).handled before.sound (built.idsApart outbox identity)
      (Processor.observe_handled _ event s) hid
  | elsewhere _ _ ih => exact ih hid

/-! ### Deleted messages -/

lemma TouchesLive.posted {t : Transcript} (h : TouchesLive t) (hid : Identifies owner t)
    {origin : MessageId} {call : Call} (hc : .called origin call ∈ t) {r : Response}
    (hr : r ∈ call.operation.touched?) :
    ∃ id, (origin, ⟨r.action, id⟩) ∈ t.filterMap Happening.posted? ∧
      owner id = owner r.message := by
  obtain ⟨before, after, rfl⟩ := List.append_of_mem hc
  have hstanding := (live_sublist_standing before).subset (h before origin call after rfl r hr)
  obtain ⟨id, hposted, howner⟩ := standing_posted hid.of_append hstanding
  rw [List.filterMap_append]
  exact ⟨id, List.mem_append_left _ hposted, howner⟩

/-- A message whose deletion was confirmed never stands again. -/
lemma TouchesLive.deleted {t : Transcript} (h : TouchesLive t) (hid : Identifies owner t)
    {origin target : MessageId} {action : ActionId}
    (hd : .called origin ⟨.delete action target, some ()⟩ ∈ t) :
    owner target ∉ (standing t).map fun p => owner p.2.message := by
  induction t using List.reverseRecOn with
  | nil => cases hd
  | append_singleton t x ih =>
    have hbefore := h.of_append
    rcases List.mem_append.mp hd with hd | hd
    · intro hmem
      rcases List.mem_append.mp ((standing_concat_owners hid).subset hmem) with hmem | hmem
      · exact ih hbefore hid.of_append hd hmem
      · -- It was posted before it was deleted, so what is posted now is another message.
        obtain ⟨first, hfirst, howner⟩ := hbefore.posted hid.of_append hd rfl
        have hposts := hid.posts
        rw [posted_concat, List.map_append, List.nodup_append] at hposts
        exact hposts.2.2 _ (List.mem_map.mpr ⟨_, hfirst, howner⟩) _ hmem rfl
    · rw [← List.mem_singleton.mp hd] at h ⊢
      have htarget := (live_sublist_standing t).subset (h t origin _ [] rfl _ rfl)
      intro hmem
      rw [standing_concat] at hmem
      obtain ⟨p, hp, howner⟩ := List.mem_map.mp hmem
      obtain ⟨hstanding, hother⟩ := List.mem_filter.mp hp
      have heq := List.inj_on_of_nodup_map (standing_owners_nodup hid.of_append) hstanding htarget
        howner
      rw [heq] at hother
      simp at hother

/-! ### A run with failures and evictions -/

namespace Echo
open Simulation

def outbox : Outbox Workspace := { driver := Workspace.driver.outside }

def processor : Processor Workspace := registry.processor outbox identity

lemma processor_eq : registry.processor outbox identity = processor := rfl

def host : Host Workspace := { world := { failing := ["update:bye"] } }

def tracker : ResponseTracker := ⟨{ capacity := 1 }⟩

/-- A greeting is changed while the service fails, another message displaces it, and it is changed
once more. -/
def events : List MessageEvent :=
  [said "1" "hi", changed "1" "bye", said "2" "hi", changed "1" "hi"]

def run : Transcript × Processor.State Workspace := processor.processAll events ⟨tracker, host⟩

lemma registry_built : registry.Built := by
  have accepted : PluginRegistry.register { botName := "bot", version := "1" } plugin =
      .ok registry := rfl
  exact .register (.empty "bot" "1" "Local") accepted

lemma started : Reached registry outbox 1 [] ⟨tracker, host⟩ := by
  have created : ResponseTracker.create? 1 = some tracker := rfl
  exact .start host created

lemma run_reached : Reached registry outbox 1 run.1 run.2 := by
  have h := started.processAll identity events
  rwa [processor_eq, List.nil_append] at h

end Echo

/-! ### What the tracker holds and what calls touch -/

/-- After every run from an empty tracker the responses on record for an original message are its
live replies, each once, no two of one action, and each goes back to a confirmed posting for this
original message and this action. There is no entry exactly when there is no live reply. -/
theorem records_are_live_replies [Clocked σ] {registry : PluginRegistry σ} {outbox : Outbox σ}
    {capacity : Int} {t : Transcript} {s : Processor.State σ} (built : registry.Built)
    (reached : Reached registry outbox capacity t s) (hid : Identifies owner t)
    (origin : MessageId) :
    (s.tracker.records origin).Perm (liveReplies t origin) ∧
      ((s.tracker.records origin).map (·.action)).Nodup ∧
      (s.tracker.contains origin = false ↔ liveReplies t origin = []) ∧
      ∀ r ∈ s.tracker.records origin, ∃ message id,
        .called origin ⟨.send r.action message, some id⟩ ∈ t ∧ owner id = owner r.message := by
  have h := reached.accounted built hid
  have hrecords := h.records origin
  refine ⟨hrecords.symm, h.distinct origin, ?_, ?_⟩
  · rw [← Bool.not_eq_true, ResponseTracker.contains_iff reached.sound, not_not]
    constructor
    · intro hnone
      rw [hnone] at hrecords
      exact hrecords.eq_nil
    · intro hnone
      rw [hnone] at hrecords
      exact hrecords.nil_eq.symm
  · intro r hr
    have hlive := mem_ofOrigin.mp (hrecords.mem_iff.mpr hr)
    obtain ⟨id, hposted, howner⟩ := standing_posted hid ((live_sublist_standing t).subset hlive)
    obtain ⟨message, hcall⟩ := called_of_posted hposted
    exact ⟨message, id, hcall, howner⟩

/-- The greeting's first replies were displaced, so only the second ones are on record. -/
theorem records_after_displacement :
    Echo.registry.Built ∧ Reached Echo.registry Echo.outbox 1 Echo.run.1 Echo.run.2 ∧
      Identifies id Echo.run.1 ∧
      liveReplies Echo.run.1 ⟨"C", "1"⟩ =
        [⟨⟨"echo", .hear, 0⟩, ⟨"C", "204.0"⟩⟩, ⟨⟨"echo", .hear, 1⟩, ⟨"C", "205.0"⟩⟩] ∧
      (Echo.run.2.tracker.records ⟨"C", "1"⟩).Perm (liveReplies Echo.run.1 ⟨"C", "1"⟩) := by
  have hid : Identifies id Echo.run.1 := ⟨by decide +kernel, by decide +kernel⟩
  have h := records_are_live_replies Echo.registry_built Echo.run_reached hid ⟨"C", "1"⟩
  exact ⟨Echo.registry_built, Echo.run_reached, hid, by decide +kernel, h.1⟩

/-- Whatever is changed or deleted in a run from an empty tracker is a standing reply: under its
current identity, posted before for the same original message and the same action, and by no other
call, and its deletion was not confirmed before. -/
theorem touched_replies_stand [Clocked σ] {registry : PluginRegistry σ} {outbox : Outbox σ}
    {capacity : Int} {t : Transcript} {s : Processor.State σ} (built : registry.Built)
    (reached : Reached registry outbox capacity t s) (hid : Identifies owner t)
    {before after : Transcript} {origin : MessageId} {call : Call} {r : Response}
    (hsplit : t = before ++ .called origin call :: after)
    (hr : r ∈ call.operation.touched?) :
    (origin, r) ∈ standing before ∧
      (∃ message id, .called origin ⟨.send r.action message, some id⟩ ∈ before ∧
        owner id = owner r.message) ∧
      (∀ sender action message id, .called sender ⟨.send action message, some id⟩ ∈ t →
        owner id = owner r.message → sender = origin ∧ action = r.action) ∧
      ∀ deleter action target, .called deleter ⟨.delete action target, some ()⟩ ∈ before →
        owner target ≠ owner r.message := by
  have h := reached.accounted built hid
  have htouches := h.touches
  rw [hsplit] at hid htouches
  have hbefore := htouches.of_append
  have hlive := htouches before origin call after rfl r hr
  have hstands := (live_sublist_standing before).subset hlive
  obtain ⟨id, hposted, howner⟩ := standing_posted hid.of_append hstands
  have hposted' : (origin, ⟨r.action, id⟩) ∈ t.filterMap Happening.posted? := by
    rw [hsplit, List.filterMap_append]
    exact List.mem_append_left _ hposted
  refine ⟨hstands, ?_, ?_, ?_⟩
  · obtain ⟨message, hcall⟩ := called_of_posted hposted
    exact ⟨message, id, hcall, howner⟩
  · intro sender action message other hsend heq
    rw [← hsplit] at hid
    have hother : (sender, ⟨action, other⟩) ∈ t.filterMap Happening.posted? :=
      List.mem_filterMap.mpr ⟨_, hsend, rfl⟩
    have hsame := hid.post_unique hother hposted' (heq.trans howner.symm)
    rw [Prod.mk.injEq, Response.mk.injEq] at hsame
    exact ⟨hsame.1, hsame.2.1⟩
  · intro deleter action target hdelete heq
    apply hbefore.deleted hid.of_append hdelete
    exact List.mem_map.mpr ⟨_, hstands, heq.symm⟩

/-- The second reply to the greeting, deleted when the greeting was changed, stood until then. -/
theorem withdrawn_reply_stood :
    Echo.registry.Built ∧ Reached Echo.registry Echo.outbox 1 Echo.run.1 Echo.run.2 ∧
      Identifies id Echo.run.1 ∧
      Echo.run.1 = Echo.run.1.take 5 ++ .called ⟨"C", "1"⟩
        ⟨.delete ⟨"echo", .hear, 1⟩ ⟨"C", "201.0"⟩, some ()⟩ :: Echo.run.1.drop 6 ∧
      (⟨"C", "1"⟩, ⟨⟨"echo", .hear, 1⟩, ⟨"C", "201.0"⟩⟩) ∈ standing (Echo.run.1.take 5) := by
  have hid : Identifies id Echo.run.1 := ⟨by decide +kernel, by decide +kernel⟩
  have hsplit : Echo.run.1 = Echo.run.1.take 5 ++ .called ⟨"C", "1"⟩
      ⟨.delete ⟨"echo", .hear, 1⟩ ⟨"C", "201.0"⟩, some ()⟩ :: Echo.run.1.drop 6 := rfl
  have h := touched_replies_stand Echo.registry_built Echo.run_reached hid hsplit rfl
  exact ⟨Echo.registry_built, Echo.run_reached, hid, hsplit, h.1⟩

end ChatEngine
