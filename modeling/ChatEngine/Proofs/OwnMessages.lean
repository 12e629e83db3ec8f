import ChatEngine.Proofs.IdleEvents
import ChatEngine.Proofs.TrackedReplies

/-!
# The bot's own messages

The service tells the bot of its own messages as of any other. What was posted or changed comes back
with the bot as its author, and what was deleted never had an entry in the tracker, as entries stand
under messages of users (`KeptApart`). So all of these events are idle, and the bot never answers
itself, however long it runs.
-/

namespace ChatEngine
open Outbox

variable {σ : Type}

namespace Transcript

/-- The identities that the driver confirmed posting and changing messages with. -/
def issued (t : Transcript) : List MessageId := t.filterMap fun
  | .called _ call => call.written?.map (·.1.message)
  | _ => none

lemma issued_append (t u : Transcript) : issued (t ++ u) = t.issued ++ u.issued :=
  List.filterMap_append

lemma mem_issued {t : Transcript} {origin : MessageId} {call : Call} {r : Response}
    {content : String × Option (List Value)} (made : .called origin call ∈ t)
    (written : call.written? = some (r, content)) : r.message ∈ t.issued :=
  List.mem_filterMap.mpr ⟨_, made, by simp [written]⟩

end Transcript

/-- Whether an event tells of the bot's own message as a confirmed call left it: posted, changed or
deleted. -/
def Outbox.Call.Echoed (i : Identity) (e : MessageEvent) : Call → Prop
  | ⟨.send _ _, some id⟩ =>
    e.kind = .new ∧ e.originId = id ∧ e.WrittenBy i ∧ e.resolvedText ≠ none
  | ⟨.update _ _ _ _, some id⟩ =>
    e.kind = .edit ∧ e.originId = id ∧ e.WrittenBy i ∧ e.resolvedText ≠ none
  | ⟨.delete _ target, some ()⟩ => e.kind = .delete ∧ e.originId = target
  | _ => False

/-- Runs from an empty tracker in which the events of users are processed and, at any later time and
any number of times, the events that tell of the bot's own calls. `t` is what happened on the events
of users, and `u` what happened on the others; the world may change in between. -/
inductive Fed [Clocked σ] (p : Processor σ) (i : Identity) (capacity : Int) :
    List MessageEvent → Transcript → Transcript → Processor.State σ → Prop
  | start {tracker : ResponseTracker} (host : Host σ)
      (created : ResponseTracker.create? capacity = some tracker) :
      Fed p i capacity [] [] [] ⟨tracker, host⟩
  | user {users : List MessageEvent} {t u : Transcript} {s : Processor.State σ}
      (fed : Fed p i capacity users t u s) (e : MessageEvent) :
      Fed p i capacity (users ++ [e]) (t ++ p.transcript e s) u (p.process e s).2
  | echo {users : List MessageEvent} {t u : Transcript} {s : Processor.State σ}
      (fed : Fed p i capacity users t u s) {origin : MessageId} {call : Call}
      (made : .called origin call ∈ t ++ u) {e : MessageEvent} (echoed : call.Echoed i e) :
      Fed p i capacity users t (u ++ p.transcript e s) (p.process e s).2
  | elsewhere {users : List MessageEvent} {t u : Transcript} {s : Processor.State σ}
      (fed : Fed p i capacity users t u s) (host : Host σ) :
      Fed p i capacity users t u { s with host }

/-! ### Whose messages the tracker holds -/

/-- The messages of users and those of the bot kept apart: entries stand under the former, and what
is on record or was changed or deleted is among the latter. -/
structure KeptApart (users : List MessageEvent) (t : Transcript) (tracker : ResponseTracker) :
    Prop where
  sound : tracker.Sound
  keyed : ∀ origin, tracker.contains origin = true →
    ∃ e ∈ users, (e.kind = .new ∨ e.kind = .edit) ∧ e.originId = origin
  recorded : ∀ origin, ∀ r ∈ tracker.records origin, r.message ∈ t.issued
  touched : ∀ origin call, .called origin call ∈ t → ∀ r ∈ call.operation.touched?,
    r.message ∈ t.issued

namespace KeptApart

variable {users : List MessageEvent} {t : Transcript} {tracker : ResponseTracker}

lemma empty {capacity : Int} (created : ResponseTracker.create? capacity = some tracker) :
    KeptApart [] [] tracker := by
  have hsound := ResponseTracker.create?_sound created
  have hrecords := ResponseTracker.create?_records created
  refine ⟨hsound, ?_, ?_, fun _ _ hcall => by cases hcall⟩
  · intro origin hentry
    exact absurd (hrecords origin) ((ResponseTracker.contains_iff hsound origin).mp hentry)
  · intro origin r hr
    rw [hrecords] at hr
    cases hr

lemma more (h : KeptApart users t tracker) (e : MessageEvent) :
    KeptApart (users ++ [e]) t tracker where
  sound := h.sound
  keyed origin hentry := by
    obtain ⟨e', hmem, he'⟩ := h.keyed origin hentry
    exact ⟨e', List.mem_append_left _ hmem, he'⟩
  recorded := h.recorded
  touched := h.touched

lemma rerecord (h : KeptApart users t tracker) {origin : MessageId}
    (home : ∃ e ∈ users, (e.kind = .new ∨ e.kind = .edit) ∧ e.originId = origin)
    {calls : List Call}
    (htouched : ∀ r ∈ Outbox.touched (calls.map (·.operation)), r.message ∈ t.issued) :
    KeptApart users
      (t ++ (calls.map (.called origin) ++
        Processor.evictions tracker origin (Outbox.recorded calls)))
      (Processor.rerecorded tracker origin (Outbox.recorded calls)) := by
  have hget := h.sound.get origin
  refine ⟨hget.put _ _, ?_, ?_, ?_⟩
  · intro k hentry
    by_cases hk : k = origin
    · rw [hk]
      exact home
    · apply h.keyed
      unfold ResponseTracker.contains Lru.contains Processor.rerecorded at hentry
      rw [ResponseTracker.peek?_put hget, if_neg hk] at hentry
      split at hentry
      · cases hentry
      · rwa [ResponseTracker.peek?_get] at hentry
  · intro k r hr
    unfold Processor.rerecorded at hr
    rw [ResponseTracker.records_put hget] at hr
    rw [Transcript.issued_append, List.mem_append]
    split_ifs at hr with hk hgone
    · rcases mem_recorded hr with ⟨call, hcall, content, hwritten⟩ | hr
      · have hmade : Happening.called origin call ∈ calls.map (.called origin) ++
            Processor.evictions tracker origin (Outbox.recorded calls) :=
          List.mem_append_left _ (List.mem_map.mpr ⟨call, hcall, rfl⟩)
        exact .inr (Transcript.mem_issued hmade hwritten)
      · exact .inl (htouched r hr)
    · cases hr
    · rw [ResponseTracker.records_get] at hr
      exact .inl (h.recorded k r hr)
  · intro k call hcall r hr
    rw [Transcript.issued_append, List.mem_append]
    left
    rcases List.mem_append.mp hcall with hcall | hcall
    · exact h.touched k call hcall r hr
    · rcases List.mem_append.mp hcall with hcall | hcall
      · obtain ⟨made, hmade, heq⟩ := List.mem_map.mp hcall
        cases heq
        apply htouched
        exact List.mem_filterMap.mpr ⟨_, List.mem_map.mpr ⟨_, hmade, rfl⟩, hr⟩
      · obtain ⟨gone, -, heq⟩ := List.mem_map.mp hcall
        cases heq

/-- Processing an event keeps the messages of users and those of the bot apart. -/
theorem handled [Clocked σ] {p : Processor σ} (h : KeptApart users t tracker) {e : MessageEvent}
    {u : Transcript} {next : ResponseTracker} (step : p.Handled e tracker u next) :
    KeptApart (users ++ [e]) (t ++ u) next := by
  cases step with
  | skipped => simpa using h.more e
  | unrecorded => simpa using h.more e
  | @withdrawn origin prior calls host task_eq present performed =>
    have hcontains : tracker.contains origin = true := by
      rw [ResponseTracker.contains, Lru.contains, present]
      rfl
    apply (h.more e).rerecord ((h.more e).keyed origin hcontains)
    rw [asked_of_performed performed, touched_withdrawals]
    intro r hr
    apply h.recorded origin
    rwa [ResponseTracker.records, present]
  | @answered message calls asked later task_eq performed =>
    obtain ⟨hshown, hview⟩ := Processor.task_answer task_eq
    have horigin := (Processor.incoming_cases hview).2.1
    let replies := (p.dialog.replies message asked).1
    have hanswered : KeptApart (users ++ [e]) (t ++ [.answered message replies]) tracker := by
      have hissued : Transcript.issued (t ++ [.answered message replies]) = t.issued := by
        rw [Transcript.issued_append]
        exact List.append_nil _
      refine ⟨h.sound, (h.more e).keyed, ?_, ?_⟩
      · rw [hissued]
        exact h.recorded
      · rw [hissued]
        intro origin call hcall
        apply h.touched origin call
        simpa using hcall
    rw [List.append_cons t]
    apply hanswered.rerecord ⟨e, by simp, hshown, horigin.symm⟩
    rw [asked_of_performed performed]
    intro r hr
    have hperm := touched_operations p.outbox message replies
      (earlier_keyed (tracker.records message.originId))
      (earlier_nodup (tracker.records message.originId))
    obtain ⟨entry, hentry, rfl⟩ := List.mem_map.mp (hperm.subset hr)
    exact hanswered.recorded _ _ (mem_of_mem_earlier hentry)

/-- The events that tell of the bot's own calls are idle. -/
theorem idle_of_echoed (h : KeptApart users t tracker)
    (apart : ∀ e ∈ users, e.kind = .new ∨ e.kind = .edit → e.originId ∉ t.issued)
    {i : Identity} {origin : MessageId} {call : Call} (made : .called origin call ∈ t)
    {e : MessageEvent} (echoed : call.Echoed i e) : Idle i tracker e := by
  obtain ⟨op, confirmation⟩ := call
  cases op with
  | send action message =>
    cases confirmation with
    | none => cases echoed
    | some id =>
      obtain ⟨hkind, -, hauthor, htext⟩ := echoed
      exact .own (.inl hkind) hauthor htext
  | whisper action message => cases confirmation <;> cases echoed
  | update action target text blocks =>
    cases confirmation with
    | none => cases echoed
    | some id =>
      obtain ⟨hkind, -, hauthor, htext⟩ := echoed
      exact .own (.inr hkind) hauthor htext
  | delete action target =>
    cases confirmation with
    | none => cases echoed
    | some done =>
      obtain ⟨hkind, horigin⟩ := echoed
      have hissued : target ∈ t.issued := h.touched origin _ made ⟨action, target⟩ rfl
      refine .unrecorded hkind (Bool.eq_false_iff.mpr fun hentry => ?_)
      obtain ⟨sender, hsender, hshown, hid⟩ := h.keyed _ hentry
      apply apart sender hsender hshown
      rw [hid, horigin]
      exact hissued

end KeptApart

/-- As long as the driver issues no identity of a user's message, nothing happens on the events that
tell of the bot's own calls, and messages are kept apart. -/
theorem Fed.keptApart [Clocked σ] {p : Processor σ} {i : Identity}
    (known : p.dialog.identity = some i) {capacity : Int} {users : List MessageEvent}
    {t u : Transcript} {s : Processor.State σ} (fed : Fed p i capacity users t u s)
    (apart : ∀ e ∈ users, e.kind = .new ∨ e.kind = .edit → e.originId ∉ t.issued) :
    u = [] ∧ KeptApart users t s.tracker := by
  induction fed with
  | start host created => exact ⟨rfl, .empty created⟩
  | @user users t u s _ e ih =>
    rw [Transcript.issued_append] at apart
    obtain ⟨hnothing, hkept⟩ := ih fun e' he' hshown hissued =>
      apart e' (List.mem_append_left _ he') hshown (List.mem_append_left _ hissued)
    refine ⟨hnothing, ?_⟩
    rw [Processor.process_state]
    exact hkept.handled (p.observe_handled e s)
  | @echo users t u s _ origin call made e echoed ih =>
    obtain ⟨rfl, hkept⟩ := ih apart
    rw [List.append_nil] at made
    obtain ⟨hobserved, quiet⟩ :=
      Processor.ineffective_of_idle known (hkept.idle_of_echoed apart made echoed)
    refine ⟨congrArg Prod.snd hobserved, ?_⟩
    rw [Processor.process_state, ← quiet.tracker]
    exact hkept
  | elsewhere _ _ ih => exact ih apart

/-! ### No feedback -/

/-- With a known identity, idle events make no difference to the others, wherever and however often
they are slipped in: what happens on every other event and the tracker after it are as without them.
The events that tell of the bot's own calls are idle as long as the driver issues no identity of a
user's message; nothing ever happens on them. -/
theorem no_feedback [Clocked σ] {p : Processor σ} {i : Identity}
    (known : p.dialog.identity = some i) :
    (∀ arrivals s, p.SlippedIn (fun s e => Idle i s.tracker e) arrivals s →
      p.Undisturbed s (Processor.originals arrivals) (p.turnsAmong arrivals s) ∧
        (p.Blind → p.turnsAmong arrivals s = p.turns (Processor.originals arrivals) s)) ∧
      ∀ capacity users t u s, Fed p i capacity users t u s →
        (∀ e ∈ users, e.kind = .new ∨ e.kind = .edit → e.originId ∉ t.issued) →
        u = [] ∧ ∀ origin call e, .called origin call ∈ t → call.Echoed i e →
          Idle i s.tracker e := by
  refine ⟨?_, ?_⟩
  · intro arrivals s idle
    have hundisturbed := Processor.undisturbed
      (idle.mono fun _ _ h => Processor.ineffective_of_idle known h)
    exact ⟨hundisturbed, fun hp => hp.turns_eq hundisturbed (.refl s)⟩
  · intro capacity users t u s fed apart
    obtain ⟨hnothing, hkept⟩ := fed.keptApart known apart
    exact ⟨hnothing, fun _ _ _ made echoed => hkept.idle_of_echoed apart made echoed⟩

namespace Echo

def bot : Identity := { userId := some "B" }

/-- A message of the bot. -/
def own (timestamp text : String) : MessageEvent :=
  { channel := some "C", timestamp := some timestamp, userId := some "B", text := some text }

def gone (timestamp : String) : MessageEvent :=
  { channel := some "C", timestamp := some "9", subtype := some "message_deleted"
    deletedTimestamp := some timestamp }

def fresh : Processor.State Simulation.Workspace := ⟨tracker, host⟩

def greeted : Processor.State Simulation.Workspace := (processor.process (said "1" "hi") fresh).2

/-- A message of the bot is slipped in before a greeting, and its deletion after it. -/
def visited : List Processor.Arrival :=
  [⟨own "7" "hi", true⟩, ⟨said "1" "hi", false⟩, ⟨gone "7", true⟩, ⟨changed "1" "bye", false⟩]

lemma known : processor.dialog.identity = some bot := rfl

lemma processor_blind : processor.Blind :=
  ⟨registry_blind.commands, registry_blind.hearActions, ChatDriver.outside_blind _⟩

lemma visited_idle :
    processor.SlippedIn (fun s e => Idle bot s.tracker e) visited fresh := by
  dsimp only [visited, Processor.SlippedIn]
  refine ⟨fun _ => ?_, nofun, fun _ => ?_, nofun, trivial⟩
  · exact .own (.inl (by decide +kernel)) (.inl rfl) (by decide +kernel)
  · exact .unrecorded (by decide +kernel) (by decide +kernel)

/-- The call that answers the greeting. -/
def greeting : Call :=
  ⟨.send ⟨"echo", .hear, 0⟩ { channel := "C", text := "hi" }, some ⟨"C", "200.0"⟩⟩

lemma fed : Fed processor bot 1 [said "1" "hi"] (processor.transcript (said "1" "hi") fresh)
    (processor.transcript (own "200.0" "hi") greeted)
    (processor.process (own "200.0" "hi") greeted).2 := by
  have created : ResponseTracker.create? 1 = some tracker := rfl
  have greeted := (Fed.start (p := processor) (i := bot) host created).user (said "1" "hi")
  have made : .called ⟨"C", "1"⟩ greeting ∈ processor.transcript (said "1" "hi") fresh :=
    .tail _ (.head _)
  have echoed : greeting.Echoed bot (own "200.0" "hi") :=
    ⟨by decide +kernel, by decide +kernel, .inl rfl, by decide +kernel⟩
  exact greeted.echo (List.mem_append_left _ made) echoed

end Echo

/-- A message of the bot and its deletion make no difference to the replies to a greeting, and
nothing happens when the bot is told of its reply. -/
theorem own_reply_is_ignored :
    Echo.processor.dialog.identity = some Echo.bot ∧
      Echo.processor.SlippedIn (fun s e => Idle Echo.bot s.tracker e) Echo.visited Echo.fresh ∧
      Echo.processor.turnsAmong Echo.visited Echo.fresh =
        Echo.processor.turns [Echo.said "1" "hi", Echo.changed "1" "bye"] Echo.fresh ∧
      Echo.processor.transcript (Echo.own "200.0" "hi") Echo.greeted = [] := by
  obtain ⟨hslipped, hfed⟩ := no_feedback Echo.known
  have apart : ∀ e ∈ [Echo.said "1" "hi"], e.kind = .new ∨ e.kind = .edit → e.originId ∉
      Transcript.issued (Echo.processor.transcript (Echo.said "1" "hi") Echo.fresh) := by
    intro e he _
    rw [List.mem_singleton.mp he]
    decide +kernel
  refine ⟨Echo.known, Echo.visited_idle, ?_, ?_⟩
  · exact (hslipped Echo.visited Echo.fresh Echo.visited_idle).2 Echo.processor_blind
  · exact (hfed _ _ _ _ _ Echo.fed apart).1

end ChatEngine
