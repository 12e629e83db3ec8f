import ChatEngine.Proofs.Transcript

/-!
# Containment of faults

Processing an event ends with a fault exactly if the event asks for a text that is not there, and
then before anything was done. What the actions and the driver do, and how they fail, never ends the
processing of an event: `MessageEvent.outcome` tells its end from the event alone.
-/

namespace ChatEngine

variable {σ : Type}

namespace MessageEvent

/-- An event that is shown to the actions, but has no text to show. -/
structure LacksText (e : MessageEvent) : Prop where
  shown : e.kind = .new ∨ e.kind = .edit
  valid : e.validate = .ok ()
  null : e.resolvedText = none

/-- How the processing of an event ends. -/
def outcome (e : MessageEvent) : Except Fault Unit :=
  if e.kind = .ignored then .ok ()
  else match e.validate with
    | .error _ => .ok ()
    | .ok () =>
      if e.kind = .delete then .ok ()
      else match e.resolvedText with
        | none => .error .missingText
        | some _ => .ok ()

lemma LacksText.outcome_eq {e : MessageEvent} (h : e.LacksText) :
    e.outcome = .error .missingText := by
  obtain ⟨hshown, hvalid, hnull⟩ := h
  unfold outcome
  rcases hshown with hk | hk <;> simp [hk, hvalid, hnull]

lemma lacksText_of_outcome {e : MessageEvent} {fault : Fault} (h : e.outcome = .error fault) :
    e.LacksText := by
  unfold outcome at h
  by_cases hignored : e.kind = .ignored
  · rw [if_pos hignored] at h
    cases h
  rw [if_neg hignored] at h
  cases hvalid : e.validate with
  | error refusal =>
    rw [hvalid] at h
    cases h
  | ok =>
    rw [hvalid] at h
    by_cases hdelete : e.kind = .delete
    · rw [if_pos hdelete] at h
      cases h
    rw [if_neg hdelete] at h
    cases htext : e.resolvedText with
    | some text =>
      rw [htext] at h
      cases h
    | none =>
      exact ⟨(MessageKind.shown_iff _).mpr ⟨hignored, hdelete⟩, hvalid, htext⟩

end MessageEvent

namespace Processor

variable [Clocked σ]

lemma processMessage_fst (p : Processor σ) {event : MessageEvent} (hkind : event.kind ≠ .delete)
    (s : State σ) :
    (p.processMessage event s).1 =
      match event.resolvedText with
      | none => .error .missingText
      | some _ => .ok () := by
  rw [processMessage_apply]
  unfold observeMessage Dialog.incoming
  rw [if_neg hkind]
  cases event.resolvedText with
  | none => rfl
  | some text =>
    dsimp only
    split <;> rfl

/-- The end of processing an event is decided by the event. -/
theorem process_fst (p : Processor σ) (event : MessageEvent) (s : State σ) :
    (p.process event s).1 = event.outcome := by
  unfold process MessageEvent.outcome
  by_cases hignored : event.kind = .ignored
  · simp only [hignored, if_true]
    rfl
  · simp only [hignored, if_false]
    cases event.validate with
    | error refusal => rfl
    | ok =>
      simp only [bind_apply, timed_apply]
      by_cases hdelete : event.kind = .delete
      · simp only [hdelete, if_true]
        rfl
      · simp only [hdelete, if_false]
        exact p.processMessage_fst hdelete _

/-- The counters after an event that had no text to show. -/
def faulted (event : MessageEvent) (h : Host σ) : Host σ :=
  let labels := [("type", event.kind.text)]
  let now := Clocked.now h.world
  { h with metrics :=
      (h.metrics.count .messagesProcessed labels).observe .processing labels (now - now) }

/-- An event without text to show is counted, and nothing else is done. -/
lemma observe_lacksText (p : Processor σ) {event : MessageEvent} (h : event.LacksText)
    (s : State σ) :
    p.observe event s = ((.error .missingText, []), { s with host := faulted event s.host }) := by
  obtain ⟨hshown, hvalid, hnull⟩ := h
  obtain ⟨hignored, hdelete⟩ := (MessageKind.shown_iff _).mp hshown
  have hincoming : p.dialog.incoming event = .error .missingText := by
    rw [Dialog.incoming, if_neg hdelete, hnull]
  unfold observe
  rw [if_neg hignored, hvalid]
  simp only [bind_apply, timed_apply, if_neg hdelete]
  unfold observeMessage
  rw [hincoming]
  rfl

/-- Processing an event ends with a fault exactly if the event is a new message or an edit, is well
formed, and has a null text to show. No action was shown anything then, no driver called, and the
tracker is untouched: but for the metrics, all is as before, and it is so for all actions, drivers
and identities. -/
theorem faults_exactly_without_text (p : Processor σ) (event : MessageEvent) (s : State σ) :
    ((∃ fault, (p.process event s).1 = .error fault) ↔
        (event.kind = .new ∨ event.kind = .edit) ∧ event.validate = .ok () ∧
          event.resolvedText = none) ∧
      ∀ fault, (p.process event s).1 = .error fault →
        p.transcript event s = [] ∧
          ∃ metrics, ∀ other : Processor σ,
            other.process event s = (.error fault, { s with host := { s.host with metrics } }) := by
  refine ⟨⟨?_, ?_⟩, ?_⟩
  · rintro ⟨fault, hfault⟩
    rw [process_fst] at hfault
    have h := MessageEvent.lacksText_of_outcome hfault
    exact ⟨h.shown, h.valid, h.null⟩
  · rintro ⟨hshown, hvalid, hnull⟩
    rw [process_fst]
    exact ⟨_, MessageEvent.LacksText.outcome_eq ⟨hshown, hvalid, hnull⟩⟩
  · intro fault hfault
    rw [process_fst] at hfault
    have h := MessageEvent.lacksText_of_outcome hfault
    rw [h.outcome_eq] at hfault
    cases hfault
    refine ⟨by rw [transcript, p.observe_lacksText h], (faulted event s.host).metrics, ?_⟩
    intro other
    rw [process_apply, other.observe_lacksText h]
    rfl

end Processor

end ChatEngine
