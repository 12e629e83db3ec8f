import ChatEngine.Proofs.LocalAccount
import ChatEngine.Proofs.ReplyDifferences

/-!
# Repeated deletions

The deletion of a message may be told more than once, and at each time the deletions of its replies
may fail, each on its own. Every telling withdraws exactly the replies that are not gone yet, and
what could not be deleted stays on record for the next one. Once all are gone there is no entry, and
further tellings change nothing.
-/

namespace ChatEngine
open Outbox

variable {σ : Type}

/-! ### Tellings of a deletion -/

/-- A well-formed event that tells of the deletion of a message: by its timestamp, or by its last
content if there is no timestamp. -/
structure MessageEvent.Deletes (e : MessageEvent) (origin : MessageId) : Prop where
  deletion : e.kind = .delete
  valid : e.validate = .ok ()
  channel : e.channel = some origin.channel
  target : firstPresent e.deletedTimestamp (e.previous.bind (·.timestamp)) = some origin.timestamp

/-- The deletion of a message is told again and again, while other messages are processed and the
world moves on. No event between is about the message, and none makes the tracker give up its entry.
Listed is what happened at each telling. -/
inductive Retold [Clocked σ] (origin : MessageId) (first : Processor.State σ) :
    List Transcript → Processor.State σ → Prop
  | start : Retold origin first [] first
  | again {rounds : List Transcript} {s : Processor.State σ} (before : Retold origin first rounds s)
      (p : Processor σ) {e : MessageEvent} (deletes : e.Deletes origin) :
      Retold origin first (rounds ++ [p.transcript e s]) (p.process e s).2
  | between {rounds : List Transcript} {s : Processor.State σ}
      (before : Retold origin first rounds s) (p : Processor σ) {e : MessageEvent}
      (apart : p.origin? e ≠ some origin) (kept : .evicted origin ∉ p.transcript e s) :
      Retold origin first rounds (p.process e s).2
  | elsewhere {rounds : List Transcript} {s : Processor.State σ}
      (before : Retold origin first rounds s) (host : Host σ) :
      Retold origin first rounds { s with host }

/-- Whether a call confirms that a response is deleted. -/
def Outbox.Call.confirmsDeletion (r : Response) : Call → Bool
  | ⟨.delete action target, some ()⟩ => r = ⟨action, target⟩
  | _ => false

/-- The responses left after rounds of deletions. -/
def leftAfter (prior : List Response) (rounds : List (List Call)) : List Response :=
  rounds.foldl undeleted prior

/-- Each round asks for the deletion of the responses left by then, in order, and for nothing
else. -/
def AsksForRest (prior : List Response) (rounds : List (List Call)) : Prop :=
  ∀ earlier calls later, rounds = earlier ++ calls :: later →
    calls.map (·.operation) = withdrawals (leftAfter prior earlier)

/-- What becomes of the responses to a message while its deletion is told again and again. -/
structure Converges [Clocked σ] (origin : MessageId) (prior : List Response)
    (rounds : List (List Call)) (s : Processor.State σ) : Prop where
  asks : AsksForRest prior rounds
  /-- What is left are the responses whose deletion was never confirmed. -/
  unconfirmed : prior.Nodup → leftAfter prior rounds =
    prior.filter fun r => !rounds.any fun calls => calls.any (·.confirmsDeletion r)
  records : s.tracker.records origin = leftAfter prior rounds
  gone : s.tracker.contains origin = false ↔ leftAfter prior rounds = []
  /-- Once nothing is left, further tellings do nothing. -/
  silent : leftAfter prior rounds = [] → ∀ (p : Processor σ) (e : MessageEvent),
    e.Deletes origin → p.transcript e s = [] ∧ (p.process e s).2.tracker = s.tracker

/-! ### Single tellings -/

lemma MessageEvent.Deletes.originId {e : MessageEvent} {origin : MessageId}
    (h : e.Deletes origin) : e.originId = origin := by
  have htimestamp : e.originTimestamp = some origin.timestamp := by
    have htarget := h.target
    unfold originTimestamp
    unfold firstPresent at htarget
    rw [h.deletion]
    dsimp only
    split_ifs at htarget ⊢ with hpresent
    · exact htarget
    · cases hprevious : e.previous with
      | none => simp [hprevious] at htarget
      | some content => simpa [hprevious] using htarget
  unfold MessageEvent.originId originRef MessageRef.id
  rw [h.channel, htimestamp]
  rfl

lemma MessageEvent.Deletes.task {e : MessageEvent} {origin : MessageId} (h : e.Deletes origin)
    (p : Processor σ) : p.task e = .withdraw origin := by
  unfold Processor.task
  rw [if_neg (by rw [h.deletion]; nofun), h.valid, if_pos h.deletion, h.originId]

/-- No origin has to make room for one that is held. -/
lemma evictions_of_present {t : ResponseTracker} {origin : MessageId} {prior : List Response}
    (present : t.cache.peek? origin = some prior) (responses : List Response) :
    Processor.evictions t origin responses = [] := by
  have hheld : (t.get origin).2.cache.contains origin = true := by
    rw [Lru.contains, ResponseTracker.peek?_get, present, Option.isSome_some]
  unfold Processor.evictions ResponseTracker.displaced? Lru.displaced?
  rw [if_pos (Or.inl hheld), ite_self]
  rfl

section
variable [Clocked σ] {origin : MessageId} {s : Processor.State σ}

/-- What one telling does. -/
lemma Processor.process_deletes (p : Processor σ) {e : MessageEvent} (deletes : e.Deletes origin)
    (sound : s.tracker.Sound) :
    ∃ calls : List Call, p.transcript e s = calls.map (.called origin) ∧
      calls.map (·.operation) = withdrawals (s.tracker.records origin) ∧
      (p.process e s).2.tracker.records origin = undeleted (s.tracker.records origin) calls ∧
      (s.tracker.records origin = [] → (p.process e s).2.tracker = s.tracker) := by
  have htask := deletes.task p
  have step := p.observe_handled e s
  rw [← process_state] at step
  generalize p.transcript e s = happened at step ⊢
  generalize (p.process e s).2.tracker = next at step ⊢
  cases step with
  | skipped task_eq => exact nomatch htask.symm.trans task_eq
  | answered _ _ task_eq => exact nomatch htask.symm.trans task_eq
  | @unrecorded other task_eq absent =>
    obtain rfl : origin = other := Task.withdraw.inj (htask.symm.trans task_eq)
    have hnone : s.tracker.records origin = [] := by
      rw [ResponseTracker.records, absent, Option.getD_none]
    rw [hnone]
    exact ⟨[], rfl, rfl, rfl, fun _ => rfl⟩
  | @withdrawn other prior calls host task_eq present performed =>
    obtain rfl : origin = other := Task.withdraw.inj (htask.symm.trans task_eq)
    have asked := asked_of_performed performed
    have hrecords : s.tracker.records origin = prior := by
      rw [ResponseTracker.records, present, Option.getD_some]
    rw [evictions_of_present present, List.append_nil, hrecords]
    refine ⟨calls, rfl, asked, ?_, fun hnil => ?_⟩
    · rw [rerecorded, ResponseTracker.records_put (sound.get origin), if_pos rfl,
        recorded_withdrawals asked]
    · exact absurd (present.trans (congrArg some hnil)) (sound.nonempty origin)

/-- What is on record for a message stays, whatever is done for others. -/
lemma Processor.process_apart (p : Processor σ) {e : MessageEvent} (sound : s.tracker.Sound)
    (apart : p.origin? e ≠ some origin) (kept : .evicted origin ∉ p.transcript e s) :
    (p.process e s).2.tracker.records origin = s.tracker.records origin := by
  have step := p.observe_handled e s
  rw [← process_state] at step
  have hothers : ∀ other responses, origin ≠ other →
      .evicted origin ∉ evictions s.tracker other responses →
      (rerecorded s.tracker other responses).records origin = s.tracker.records origin := by
    intro other responses hne hkept
    have hstays : (s.tracker.get other).2.displaced? other responses ≠ some origin := by
      intro hd
      apply hkept
      rw [evictions, hd]
      exact List.mem_singleton_self _
    rw [rerecorded, ResponseTracker.records_put (sound.get other), if_neg hne, if_neg hstays,
      ResponseTracker.records_get]
  generalize p.transcript e s = happened at step kept
  generalize (p.process e s).2.tracker = next at step ⊢
  cases step with
  | skipped => rfl
  | unrecorded => rfl
  | withdrawn host task_eq =>
    refine hothers _ _ (fun he => apart ?_) fun hmem => kept (List.mem_append_right _ hmem)
    rw [origin?, task_eq, he]
  | answered asked later task_eq =>
    refine hothers _ _ (fun he => apart ?_) fun hmem =>
      kept (List.mem_cons_of_mem _ (List.mem_append_right _ hmem))
    rw [origin?, task_eq, he]

lemma Retold.sound {first : Processor.State σ} {rounds : List Transcript}
    (run : Retold origin first rounds s) (sound : first.tracker.Sound) : s.tracker.Sound := by
  induction run with
  | start => exact sound
  | again _ p deletes ih =>
    rw [Processor.process_state]
    exact (p.observe_handled _ _).sound ih
  | between _ p apart kept ih =>
    rw [Processor.process_state]
    exact (p.observe_handled _ _).sound ih
  | elsewhere _ host ih => exact ih

end

/-! ### Rounds -/

lemma leftAfter_concat (prior : List Response) (rounds : List (List Call)) (calls : List Call) :
    leftAfter prior (rounds ++ [calls]) = undeleted (leftAfter prior rounds) calls := by
  rw [leftAfter, List.foldl_append]
  rfl

lemma leftAfter_sublist (prior : List Response) (rounds : List (List Call)) :
    (leftAfter prior rounds).Sublist prior := by
  induction rounds generalizing prior with
  | nil => exact List.Sublist.refl _
  | cons calls later ih => exact (ih _).trans (undeleted_sublist prior calls)

lemma confirmsDeletion_delete (r other : Response) (confirmation : Option Unit) :
    Call.confirmsDeletion r ⟨.delete other.action other.message, confirmation⟩ =
      (confirmation.isSome && r = other) := by
  cases confirmation <;> rfl

/-- Deletions of other responses confirm nothing of a response. -/
lemma not_confirmsDeletion {r : Response} {responses : List Response} {calls : List Call}
    (asked : calls.map (·.operation) = withdrawals responses) (apart : r ∉ responses) :
    calls.any (·.confirmsDeletion r) = false := by
  rw [List.any_eq_false]
  rintro ⟨op, confirmation⟩ hcall
  have hop : op ∈ withdrawals responses := asked ▸ List.mem_map.mpr ⟨_, hcall, rfl⟩
  obtain ⟨other, hother, rfl⟩ := List.mem_map.mp hop
  have hne : r ≠ other := fun he => apart (he ▸ hother)
  simp [confirmsDeletion_delete, hne]

/-- Of distinct responses those are left whose deletion was not confirmed. -/
lemma undeleted_eq_filter {responses : List Response} {calls : List Call}
    (distinct : responses.Nodup) (asked : calls.map (·.operation) = withdrawals responses) :
    undeleted responses calls =
      responses.filter fun r => !calls.any (·.confirmsDeletion r) := by
  induction responses generalizing calls with
  | nil => rfl
  | cons r rest ih =>
    obtain ⟨hnew, hrest⟩ := List.nodup_cons.mp distinct
    obtain ⟨⟨op, confirmation⟩, later, rfl, hop, hlater⟩ := List.map_eq_cons_iff.mp asked
    obtain rfl : op = .delete r.action r.message := hop
    -- The first call confirms nothing of the other responses, and the other calls nothing of it.
    have hothers : rest.filter (fun other =>
          !(⟨.delete r.action r.message, confirmation⟩ :: later : List Call).any
            (·.confirmsDeletion other)) = undeleted rest later := by
      rw [ih hrest hlater]
      apply List.filter_congr
      intro other hother
      have hne : other ≠ r := fun he => hnew (he ▸ hother)
      simp [confirmsDeletion_delete, hne]
    rw [undeleted_cons, List.filter_cons, hothers, List.any_cons, confirmsDeletion_delete,
      not_confirmsDeletion hlater hnew]
    cases confirmation <;> simp [Call.succeeded]

lemma AsksForRest.nil (prior : List Response) : AsksForRest prior [] := by
  intro earlier calls later hsplit
  simp at hsplit

lemma AsksForRest.concat {prior : List Response} {rounds : List (List Call)} {calls : List Call}
    (h : AsksForRest prior rounds)
    (asked : calls.map (·.operation) = withdrawals (leftAfter prior rounds)) :
    AsksForRest prior (rounds ++ [calls]) := by
  intro earlier others later hsplit
  rcases split_concat hsplit with ⟨rfl, rfl⟩ | ⟨rest, hearlier⟩
  · exact asked
  · exact h earlier others rest hearlier

lemma AsksForRest.of_append {prior : List Response} {rounds more : List (List Call)}
    (h : AsksForRest prior (rounds ++ more)) : AsksForRest prior rounds := by
  intro earlier calls later hsplit
  exact h earlier calls (later ++ more) (by rw [hsplit, List.append_assoc, List.cons_append])

/-- Of distinct responses those are left whose deletion no round confirmed. -/
lemma AsksForRest.leftAfter_eq_filter {prior : List Response} {rounds : List (List Call)}
    (asks : AsksForRest prior rounds) (distinct : prior.Nodup) :
    leftAfter prior rounds =
      prior.filter fun r => !rounds.any fun calls => calls.any (·.confirmsDeletion r) := by
  induction rounds using List.reverseRecOn with
  | nil => exact (List.filter_true prior).symm
  | append_singleton rounds calls ih =>
    have hleft := distinct.sublist (leftAfter_sublist prior rounds)
    rw [leftAfter_concat, undeleted_eq_filter hleft (asks rounds calls [] rfl), ih asks.of_append,
      List.filter_filter]
    apply List.filter_congr
    intro r _
    rw [List.any_append, List.any_cons, List.any_nil, Bool.or_false, Bool.not_or, Bool.and_comm]

/-! ### Runs -/

section
variable [Clocked σ] {origin : MessageId} {first s : Processor.State σ} {rounds : List Transcript}

/-- What was called at each telling, and what is on record after them. -/
lemma Retold.calls (run : Retold origin first rounds s) (sound : first.tracker.Sound) :
    ∃ calls : List (List Call), rounds = calls.map (List.map (.called origin)) ∧
      AsksForRest (first.tracker.records origin) calls ∧
      s.tracker.records origin = leftAfter (first.tracker.records origin) calls := by
  induction run with
  | start => exact ⟨[], rfl, AsksForRest.nil _, rfl⟩
  | again before p deletes ih =>
    obtain ⟨calls, rfl, asks, hrecords⟩ := ih
    obtain ⟨more, hmore, asked, hafter, -⟩ := p.process_deletes deletes (before.sound sound)
    rw [hrecords] at asked hafter
    refine ⟨calls ++ [more], ?_, asks.concat asked, ?_⟩
    · rw [hmore, List.map_append, List.map_singleton]
    · rw [hafter, leftAfter_concat]
  | between before p apart kept ih =>
    obtain ⟨calls, hrounds, asks, hrecords⟩ := ih
    refine ⟨calls, hrounds, asks, ?_⟩
    rw [p.process_apart (before.sound sound) apart kept, hrecords]
  | elsewhere _ host ih => exact ih

/-- However often the deletion of a message is told, and whichever deletions of its replies fail at
each time: every telling withdraws the replies that are left, and these stay on record, until none
are left. -/
theorem retold_deletions_converge (sound : first.tracker.Sound)
    (run : Retold origin first rounds s) :
    ∃ calls : List (List Call), rounds = calls.map (List.map (.called origin)) ∧
      Converges origin (first.tracker.records origin) calls s := by
  obtain ⟨calls, hrounds, asks, hrecords⟩ := run.calls sound
  refine ⟨calls, hrounds, asks, asks.leftAfter_eq_filter, hrecords, ?_, ?_⟩
  · rw [← hrecords, ← Bool.not_eq_true, ResponseTracker.contains_iff (run.sound sound), not_not]
  · intro hleft p e deletes
    rw [hleft] at hrecords
    obtain ⟨more, hmore, asked, -, hstays⟩ := p.process_deletes deletes (run.sound sound)
    rw [hrecords] at asked
    obtain rfl : more = [] := List.map_eq_nil_iff.mp asked
    exact ⟨hmore, hstays hrecords⟩

end

namespace Echo
open Simulation

/-- Both greetings are on record, and the one posted last cannot be deleted. -/
def replied : Processor.State Workspace :=
  ⟨tracker.put ⟨"C", "1"⟩ greetings, { world := { failing := ["delete:101.0"] } }⟩

def unsaid : MessageEvent :=
  { channel := some "C", timestamp := some "8", subtype := some "message_deleted"
    deletedTimestamp := some "1" }

/-- The same deletion, told by the last content of the message. -/
def unsaidAgain : MessageEvent :=
  { channel := some "C", timestamp := some "9", subtype := some "message_deleted"
    previous := some { timestamp := some "1" } }

/-- After the first telling nothing fails any more. -/
def recovered : Processor.State Workspace := { (processor.process unsaid replied).2 with host }

end Echo

/-- The greeting that could not be deleted at the first telling is deleted at the second one. -/
theorem greetings_are_gone_at_second_telling :
    Echo.replied.tracker.Sound ∧
      Retold ⟨"C", "1"⟩ Echo.replied
        [Echo.processor.transcript Echo.unsaid Echo.replied,
          Echo.processor.transcript Echo.unsaidAgain Echo.recovered]
        (Echo.processor.process Echo.unsaidAgain Echo.recovered).2 ∧
      Echo.recovered.tracker.records ⟨"C", "1"⟩ = [⟨⟨"echo", .hear, 1⟩, ⟨"C", "101.0"⟩⟩] ∧
      ∃ calls : List (List Call), calls.length = 2 ∧ leftAfter Echo.greetings calls = [] ∧
        Converges ⟨"C", "1"⟩ Echo.greetings calls
          (Echo.processor.process Echo.unsaidAgain Echo.recovered).2 := by
  have created : ResponseTracker.create? 1 = some Echo.tracker := rfl
  have sound : Echo.replied.tracker.Sound :=
    (ResponseTracker.create?_sound created).put ⟨"C", "1"⟩ Echo.greetings
  have first : Echo.unsaid.Deletes ⟨"C", "1"⟩ := ⟨by decide +kernel, rfl, rfl, by decide +kernel⟩
  have second : Echo.unsaidAgain.Deletes ⟨"C", "1"⟩ :=
    ⟨by decide +kernel, rfl, rfl, by decide +kernel⟩
  have run : Retold ⟨"C", "1"⟩ Echo.replied _ _ :=
    ((Retold.start.again Echo.processor first).elsewhere Echo.host).again Echo.processor second
  obtain ⟨calls, hrounds, converges⟩ := retold_deletions_converge sound run
  have hlength := congrArg List.length hrounds
  rw [List.length_map] at hlength
  exact ⟨sound, run, by decide +kernel, calls, hlength.symm,
    converges.gone.mp (by decide +kernel), converges⟩

end ChatEngine
