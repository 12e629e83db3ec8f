import ChatEngine.Proofs.Transcript
import Mathlib.Data.List.Perm.Basic

/-!
# Live replies

A transcript tells which messages the bot has posted for which original message, which of them are
still there, and which identity they have now. `standing` follows the messages alone; `live` forgets
a message as well when the tracker gives up the entry of its original message. Both read nothing but
confirmed calls and evictions. The tracker holds exactly the live replies, so that everything the
bot changes or deletes is a standing reply of the same original message and of the same action.

That identities name messages is a property of the chat service: `Identifies owner t` says that no
identity was given out for two messages.
-/

namespace ChatEngine
open Outbox

/-- What a call does to the posted messages, each listed with its original message, the action that
it answers for and the identity that it has now. -/
def applyCall (origin : MessageId) (posted : List (MessageId × Response)) :
    Call → List (MessageId × Response)
  | ⟨.send action _, some id⟩ => posted ++ [(origin, ⟨action, id⟩)]
  | ⟨.update _ target _ _, some id⟩ =>
    posted.map fun p => if p.2.message = target then (p.1, ⟨p.2.action, id⟩) else p
  | ⟨.delete _ target, some ()⟩ => posted.filter fun p => p.2.message ≠ target
  | _ => posted

/-- The posted messages after one more happening. -/
def follow (posted : List (MessageId × Response)) : Happening → List (MessageId × Response)
  | .called origin call => applyCall origin posted call
  | _ => posted

/-- The messages that were posted and not deleted. -/
def standing (t : Transcript) : List (MessageId × Response) := t.foldl follow []

/-- The same, where the messages of an original message that is given up are forgotten. -/
def followLive (posted : List (MessageId × Response)) : Happening → List (MessageId × Response)
  | .called origin call => applyCall origin posted call
  | .evicted origin => posted.filter fun p => p.1 ≠ origin
  | .answered _ _ => posted

/-- The messages that were posted and not deleted since the entry of their original message was
last given up. -/
def live (t : Transcript) : List (MessageId × Response) := t.foldl followLive []

/-- The messages of one original message. -/
def ofOrigin (origin : MessageId) (posted : List (MessageId × Response)) : List Response :=
  (posted.filter fun p => p.1 = origin).map (·.2)

/-- The live replies to an original message. -/
def liveReplies (t : Transcript) (origin : MessageId) : List Response := ofOrigin origin (live t)

/-- The message that a happening posts, as it is listed. -/
def Happening.posted? : Happening → Option (MessageId × Response)
  | .called origin ⟨.send action _, some id⟩ => some (origin, ⟨action, id⟩)
  | _ => none

lemma called_of_posted {t : Transcript} {origin id : MessageId} {action : ActionId}
    (h : (origin, ⟨action, id⟩) ∈ t.filterMap Happening.posted?) :
    ∃ message, .called origin ⟨.send action message, some id⟩ ∈ t := by
  obtain ⟨x, hx, hp⟩ := List.mem_filterMap.mp h
  cases x with
  | answered message replies => cases hp
  | evicted origin => cases hp
  | called origin call =>
    obtain ⟨op, confirmation⟩ := call
    cases op <;> cases confirmation <;> cases hp
    exact ⟨_, hx⟩

/-- The identities that a changed message had before and has now. -/
def Happening.moved? : Happening → Option (MessageId × MessageId)
  | .called _ ⟨.update _ target _ _, some id⟩ => some (target, id)
  | _ => none

/-- No identity is given out for two messages: `owner` tells the message that an identity names,
every posted message is another one, and changing a message keeps it the same message. -/
structure Identifies {ι : Type} (owner : MessageId → ι) (t : Transcript) : Prop where
  posts : ((t.filterMap Happening.posted?).map fun p => owner p.2.message).Nodup
  moves : ∀ q ∈ t.filterMap Happening.moved?, owner q.2 = owner q.1

/-- Every call that changes or deletes a message has a live reply to its original message as target,
and is made for the action of that reply. -/
def TouchesLive (t : Transcript) : Prop :=
  ∀ before origin call after, t = before ++ .called origin call :: after →
    ∀ r ∈ call.operation.touched?, (origin, r) ∈ live before

section Identities

variable {ι : Type} {owner : MessageId → ι}

lemma Identifies.of_append {t u : Transcript} (h : Identifies owner (t ++ u)) :
    Identifies owner t where
  posts := by
    have hp := h.posts
    rw [List.filterMap_append, List.map_append] at hp
    exact (List.nodup_append.mp hp).1
  moves q hq := by
    apply h.moves
    rw [List.filterMap_append]
    exact List.mem_append_left _ hq

lemma Identifies.move {t : Transcript} (h : Identifies owner t) {origin target id : MessageId}
    {action : ActionId} {text : String} {blocks : Option (List Value)}
    (hm : .called origin ⟨.update action target text blocks, some id⟩ ∈ t) :
    owner id = owner target :=
  h.moves (target, id) (List.mem_filterMap.mpr ⟨_, hm, rfl⟩)

lemma Identifies.post_unique {t : Transcript} (h : Identifies owner t) {p q : MessageId × Response}
    (hp : p ∈ t.filterMap Happening.posted?) (hq : q ∈ t.filterMap Happening.posted?)
    (he : owner p.2.message = owner q.2.message) : p = q :=
  List.inj_on_of_nodup_map h.posts hp hq he

lemma standing_concat (t : Transcript) (x : Happening) :
    standing (t ++ [x]) = follow (standing t) x := by
  rw [standing, List.foldl_append]
  rfl

lemma live_concat_called (t : Transcript) (origin : MessageId) (call : Call) :
    live (t ++ [.called origin call]) = applyCall origin (live t) call := by
  rw [live, List.foldl_append]
  rfl

lemma live_concat_evicted (t : Transcript) (origin : MessageId) :
    live (t ++ [.evicted origin]) = (live t).filter fun p => p.1 ≠ origin := by
  rw [live, List.foldl_append]
  rfl

lemma live_concat_answered (t : Transcript) (message : IncomingMessage)
    (replies : List PendingReply) : live (t ++ [.answered message replies]) = live t := by
  rw [live, List.foldl_append]
  rfl

lemma applyCall_sublist (origin : MessageId) {xs ys : List (MessageId × Response)}
    (h : xs.Sublist ys) (call : Call) :
    (applyCall origin xs call).Sublist (applyCall origin ys call) := by
  obtain ⟨op, confirmation⟩ := call
  cases op <;> cases confirmation
  case send.some => exact h.append_right _
  case update.some => exact h.map _
  case delete.some => exact h.filter _
  all_goals exact h

/-- A live reply stands. -/
theorem live_sublist_standing (t : Transcript) : (live t).Sublist (standing t) := by
  induction t using List.reverseRecOn with
  | nil => exact .slnil
  | append_singleton t x ih =>
    rw [standing_concat]
    cases x with
    | answered message replies =>
      rw [live_concat_answered]
      exact ih
    | called origin call =>
      rw [live_concat_called]
      exact applyCall_sublist origin ih call
    | evicted origin =>
      rw [live_concat_evicted]
      exact List.filter_sublist.trans ih

lemma owners_applyCall (origin : MessageId) (posted : List (MessageId × Response)) {call : Call}
    (hupdate : ∀ action target text blocks id,
      call = ⟨.update action target text blocks, some id⟩ → owner id = owner target) :
    ((applyCall origin posted call).map fun p => owner p.2.message).Sublist
      (posted.map (fun p => owner p.2.message) ++
        ((Happening.called origin call).posted?.toList).map fun p => owner p.2.message) := by
  obtain ⟨op, confirmation⟩ := call
  cases op <;> cases confirmation
  case send.some action message id =>
    simp [applyCall, Happening.posted?]
  case update.some action target text blocks id =>
    have hid := hupdate _ _ _ _ _ rfl
    have hmap : (posted.map fun p => if p.2.message = target then (p.1, ⟨p.2.action, id⟩) else p).map
        (fun p : MessageId × Response => owner p.2.message) =
        posted.map fun p => owner p.2.message := by
      rw [List.map_map]
      apply List.map_congr_left
      intro p _
      by_cases hp : p.2.message = target <;> simp [hp, hid]
    simp [applyCall, Happening.posted?, hmap]
  case delete.some action target confirmed =>
    simpa [applyCall, Happening.posted?] using
      List.filter_sublist.map fun p : MessageId × Response => owner p.2.message
  all_goals simp [applyCall, Happening.posted?]

lemma posted_concat (t : Transcript) (x : Happening) :
    (t ++ [x]).filterMap Happening.posted? = t.filterMap Happening.posted? ++ x.posted?.toList := by
  rw [List.filterMap_append]
  cases hx : x.posted? <;> simp [hx]

lemma standing_concat_owners {t : Transcript} {x : Happening} (h : Identifies owner (t ++ [x])) :
    ((standing (t ++ [x])).map fun p => owner p.2.message).Sublist
      ((standing t).map (fun p => owner p.2.message) ++
        x.posted?.toList.map fun p => owner p.2.message) := by
  rw [standing_concat]
  cases x with
  | called origin call =>
    exact owners_applyCall origin (standing t)
      fun _ _ _ _ _ hcall => h.move (by rw [hcall]; exact List.mem_append_right _ (.head _))
  | answered message replies => exact List.sublist_append_left _ _
  | evicted origin => exact List.sublist_append_left _ _

lemma standing_owners_sublist {t : Transcript} (h : Identifies owner t) :
    ((standing t).map fun p => owner p.2.message).Sublist
      ((t.filterMap Happening.posted?).map fun p => owner p.2.message) := by
  induction t using List.reverseRecOn with
  | nil => exact .slnil
  | append_singleton t x ih =>
    rw [posted_concat, List.map_append]
    exact (standing_concat_owners h).trans ((ih h.of_append).append_right _)

lemma standing_owners_nodup {t : Transcript} (h : Identifies owner t) :
    ((standing t).map fun p => owner p.2.message).Nodup :=
  h.posts.sublist (standing_owners_sublist h)

/-- A standing message was posted for the original message and the action it is listed under. -/
lemma standing_posted {t : Transcript} (h : Identifies owner t) {p : MessageId × Response}
    (hp : p ∈ standing t) : ∃ id, (p.1, ⟨p.2.action, id⟩) ∈ t.filterMap Happening.posted? ∧
      owner id = owner p.2.message := by
  induction t using List.reverseRecOn generalizing p with
  | nil => cases hp
  | append_singleton t x ih =>
    have hi := h.of_append
    have hkept : ∀ q ∈ standing t, ∃ id, (q.1, ⟨q.2.action, id⟩) ∈
        (t ++ [x]).filterMap Happening.posted? ∧ owner id = owner q.2.message := by
      intro q hq
      obtain ⟨id, hid, howner⟩ := ih hi hq
      rw [List.filterMap_append]
      exact ⟨id, List.mem_append_left _ hid, howner⟩
    rw [standing_concat] at hp
    cases x with
    | answered message replies => exact hkept p hp
    | evicted origin => exact hkept p hp
    | called origin call =>
      obtain ⟨op, confirmation⟩ := call
      cases op <;> cases confirmation
      case send.some action message id =>
        rcases List.mem_append.mp hp with hp | hp
        · exact hkept p hp
        · rw [List.mem_singleton.mp hp, posted_concat]
          exact ⟨id, List.mem_append_right _ (.head _), rfl⟩
      case update.some action target text blocks id =>
        obtain ⟨q, hq, rfl⟩ := List.mem_map.mp hp
        obtain ⟨first, hfirst, howner⟩ := hkept q hq
        by_cases ht : q.2.message = target
        · rw [if_pos ht]
          have hmove : owner id = owner target := h.move (List.mem_append_right _ (.head _))
          exact ⟨first, hfirst, howner.trans ((congrArg owner ht).trans hmove.symm)⟩
        · rw [if_neg ht]
          exact ⟨first, hfirst, howner⟩
      case delete.some action target confirmed => exact hkept p (List.mem_of_mem_filter hp)
      all_goals exact hkept p hp

lemma live_owners_nodup {t : Transcript} (h : Identifies owner t) :
    ((live t).map fun p => owner p.2.message).Nodup :=
  (standing_owners_nodup h).sublist ((live_sublist_standing t).map _)

/-! ### What calls do to the live replies -/

lemma mem_ofOrigin {origin : MessageId} {r : Response} {posted : List (MessageId × Response)} :
    r ∈ ofOrigin origin posted ↔ (origin, r) ∈ posted := by
  unfold ofOrigin
  constructor
  · intro h
    obtain ⟨⟨o, r'⟩, hp, rfl⟩ := List.mem_map.mp h
    obtain ⟨hmem, ho⟩ := List.mem_filter.mp hp
    have ho' : o = origin := by simpa using ho
    rwa [← ho']
  · intro h
    exact List.mem_map.mpr ⟨_, List.mem_filter.mpr ⟨h, by simp⟩, rfl⟩

lemma ofOrigin_owners_nodup {posted : List (MessageId × Response)}
    (hn : (posted.map fun p => owner p.2.message).Nodup) (origin : MessageId) :
    ((ofOrigin origin posted).map fun r => owner r.message).Nodup := by
  unfold ofOrigin
  rw [List.map_map]
  exact hn.sublist (List.filter_sublist.map _)

/-- A response after the message `target` got the identity `id`. -/
def renamed (target id : MessageId) (r : Response) : Response :=
  if r.message = target then ⟨r.action, id⟩ else r

lemma ofOrigin_rename (origin target id : MessageId) (posted : List (MessageId × Response)) :
    ofOrigin origin (posted.map fun p =>
      if p.2.message = target then (p.1, ⟨p.2.action, id⟩) else p) =
      (ofOrigin origin posted).map (renamed target id) := by
  unfold ofOrigin
  induction posted with
  | nil => rfl
  | cons p rest ih =>
    obtain ⟨o, r⟩ := p
    by_cases ho : o = origin <;> by_cases hr : r.message = target <;> simp [ho, hr, renamed, ih]

lemma ofOrigin_remove (origin target : MessageId) (posted : List (MessageId × Response)) :
    ofOrigin origin (posted.filter fun p => p.2.message ≠ target) =
      (ofOrigin origin posted).filter fun r => r.message ≠ target := by
  unfold ofOrigin
  rw [List.filter_map, List.filter_filter, List.filter_filter]
  congr 1
  apply List.filter_congr
  intro p _
  simp [Bool.and_comm]

lemma map_renamed_of_ne {target id : MessageId} {rs : List Response}
    (h : ∀ r ∈ rs, r.message ≠ target) : rs.map (renamed target id) = rs := by
  have hid : ∀ r ∈ rs, renamed target id r = r := fun r hr => if_neg (h r hr)
  rw [List.map_congr_left hid, List.map_id']

lemma ne_of_owners_nodup {target : MessageId} {action : ActionId} {others : List Response}
    (h : ((⟨action, target⟩ :: others).map fun r : Response => owner r.message).Nodup) :
    ∀ r ∈ others, r.message ≠ target := by
  rw [List.map_cons, List.nodup_cons] at h
  intro r hr he
  exact h.1 (List.mem_map.mpr ⟨r, hr, congrArg owner he⟩)

/-- A call for a reply to an origin leaves the origin with the response that goes on record. -/
lemma ofOrigin_applyCall {posted : List (MessageId × Response)}
    (hn : (posted.map fun p => owner p.2.message).Nodup) (origin : MessageId) (call : Call)
    (others : List Response)
    (hp : (ofOrigin origin posted).Perm (call.operation.touched?.toList ++ others)) :
    (ofOrigin origin (applyCall origin posted call)).Perm (call.record?.toList ++ others) := by
  have hown := ofOrigin_owners_nodup hn origin
  obtain ⟨op, confirmation⟩ := call
  cases op <;> cases confirmation
  case send.some action message id =>
    have happ : ofOrigin origin (posted ++ [(origin, ⟨action, id⟩)]) =
        ofOrigin origin posted ++ [⟨action, id⟩] := by
      simp [ofOrigin]
    simp only [applyCall, happ]
    exact (List.perm_append_singleton _ _).trans (hp.cons _)
  case update.some action target text blocks id =>
    have hne : ∀ r ∈ others, r.message ≠ target :=
      ne_of_owners_nodup (((hp.map fun r => owner r.message).nodup_iff).mp hown)
    have hmap := hp.map (renamed target id)
    simp only [Operation.touched?, Option.toList_some, List.singleton_append, List.map_cons,
      map_renamed_of_ne hne] at hmap
    simpa [applyCall, ofOrigin_rename, renamed, Call.record?] using hmap
  case delete.some action target confirmed =>
    have hne : ∀ r ∈ others, r.message ≠ target :=
      ne_of_owners_nodup (((hp.map fun r => owner r.message).nodup_iff).mp hown)
    have hfilter := hp.filter fun r => r.message ≠ target
    have hothers : others.filter (fun r => r.message ≠ target) = others :=
      List.filter_eq_self.mpr fun r hr => by simpa using hne r hr
    simp only [Operation.touched?, Option.toList_some, List.singleton_append] at hfilter
    rw [List.filter_cons_of_neg (by simp), hothers] at hfilter
    simp only [applyCall, ofOrigin_remove]
    exact hfilter
  all_goals exact hp

/-- A call for a live reply to one origin leaves the replies to all others alone. -/
lemma ofOrigin_applyCall_other {posted : List (MessageId × Response)}
    (hn : (posted.map fun p => owner p.2.message).Nodup) {origin other : MessageId}
    (hne : other ≠ origin) (call : Call)
    (htouch : ∀ r ∈ call.operation.touched?, (origin, r) ∈ posted) :
    ofOrigin other (applyCall origin posted call) = ofOrigin other posted := by
  have hapart : ∀ (action : ActionId) (target : MessageId), (origin, ⟨action, target⟩) ∈ posted →
      ∀ r ∈ ofOrigin other posted, r.message ≠ target := by
    intro action target hmem r hr he
    have hpair := List.inj_on_of_nodup_map hn (mem_ofOrigin.mp hr) hmem (congrArg owner he)
    exact hne (congrArg Prod.fst hpair)
  obtain ⟨op, confirmation⟩ := call
  cases op <;> cases confirmation
  case send.some action message id =>
    have hor : origin ≠ other := fun h => hne h.symm
    simp [applyCall, ofOrigin, hor]
  case update.some action target text blocks id =>
    simp only [applyCall, ofOrigin_rename]
    exact map_renamed_of_ne (hapart action target (htouch _ rfl))
  case delete.some action target confirmed =>
    simp only [applyCall, ofOrigin_remove]
    refine List.filter_eq_self.mpr fun r hr => ?_
    simpa using hapart action target (htouch _ rfl) r hr
  all_goals rfl

/-- A list with one more element at the end is split there, or before. -/
lemma split_concat {α : Type} {l before after : List α} {a x : α}
    (h : l ++ [a] = before ++ x :: after) :
    (before = l ∧ x = a) ∨ ∃ rest, l = before ++ x :: rest := by
  rcases List.eq_nil_or_concat' after with rfl | ⟨front, last, rfl⟩
  · obtain ⟨hbefore, hlast⟩ := List.append_inj' h rfl
    exact .inl ⟨hbefore.symm, (List.singleton_inj.mp hlast).symm⟩
  · rw [← List.cons_append, ← List.append_assoc] at h
    exact .inr ⟨front, (List.append_inj' h rfl).1⟩

lemma TouchesLive.nil : TouchesLive [] := by
  intro before origin call after h
  simp at h

lemma TouchesLive.of_append {t u : Transcript} (h : TouchesLive (t ++ u)) : TouchesLive t := by
  intro before origin call after hsplit
  apply h before origin call (after ++ u)
  rw [hsplit, List.append_assoc, List.cons_append]

lemma TouchesLive.concat {t : Transcript} (h : TouchesLive t) (x : Happening)
    (hx : ∀ origin call, x = .called origin call →
      ∀ r ∈ call.operation.touched?, (origin, r) ∈ live t) : TouchesLive (t ++ [x]) := by
  intro before origin call after hsplit
  rcases split_concat hsplit with ⟨rfl, hlast⟩ | ⟨rest, hearlier⟩
  · exact hx origin call hlast.symm
  · exact h before origin call rest hearlier

/-- Calls for all responses on record of an origin leave it with those that go on record, and touch
nothing else. -/
lemma live_calls {t : Transcript} (origin : MessageId) (calls : List Call) (others : List Response)
    (hid : Identifies owner (t ++ calls.map (.called origin)))
    (hp : (liveReplies t origin).Perm (touched (calls.map (·.operation)) ++ others))
    (htouch : TouchesLive t) :
    (liveReplies (t ++ calls.map (.called origin)) origin).Perm (recorded calls ++ others) ∧
      (∀ other ≠ origin, liveReplies (t ++ calls.map (.called origin)) other =
        liveReplies t other) ∧
      TouchesLive (t ++ calls.map (.called origin)) := by
  -- What is left to touch and what already went on record are, together, the live replies.
  induction calls generalizing t others with
  | nil => simpa [touched, recorded, htouch] using hp
  | cons call rest ih =>
    have hsplit : t ++ (call :: rest).map (.called origin) =
        (t ++ [.called origin call]) ++ rest.map (.called origin) := by simp
    rw [hsplit] at hid ⊢
    have hn := live_owners_nodup hid.of_append.of_append
    have hcall : (liveReplies t origin).Perm (call.operation.touched?.toList ++
        (touched (rest.map (·.operation)) ++ others)) := by
      rw [← List.append_assoc]
      refine hp.trans (List.Perm.of_eq ?_)
      unfold touched
      cases hx : call.operation.touched? <;> simp [hx]
    have hmem : ∀ r ∈ call.operation.touched?, (origin, r) ∈ live t := by
      intro r hr
      have hr' : r ∈ call.operation.touched?.toList := by simpa using hr
      exact mem_ofOrigin.mp (hcall.mem_iff.mpr (List.mem_append_left _ hr'))
    have hlive : live (t ++ [.called origin call]) = applyCall origin (live t) call :=
      live_concat_called t origin call
    have hsame := ofOrigin_applyCall hn origin call _ hcall
    rw [← hlive] at hsame
    have hnext : (liveReplies (t ++ [.called origin call]) origin).Perm
        (touched (rest.map (·.operation)) ++ (call.record?.toList ++ others)) :=
      hsame.trans (List.perm_append_comm_assoc _ _ _)
    have htouch' : TouchesLive (t ++ [.called origin call]) := by
      refine htouch.concat _ fun o c hc => ?_
      cases hc
      exact hmem
    obtain ⟨hreplies, hothers, hall⟩ := ih (call.record?.toList ++ others) hid hnext htouch'
    refine ⟨?_, ?_, hall⟩
    · refine hreplies.trans ((List.perm_append_comm_assoc _ _ _).trans (List.Perm.of_eq ?_))
      unfold recorded
      cases hx : call.record? <;> simp [hx]
    · intro other hne
      rw [hothers other hne]
      unfold liveReplies
      rw [hlive]
      exact ofOrigin_applyCall_other hn hne call hmem

end Identities

end ChatEngine
