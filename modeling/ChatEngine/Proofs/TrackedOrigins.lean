import ChatEngine.Proofs.Recency

/-!
# Tracked origins

What a tracker of responses answers, whatever was asked of it before. It holds the origins used last:
recording responses and finding them are uses. An origin is forgotten when it is removed, or given
up to make room for a new one, and then it is the one used longest ago; so it stays while fewer other
origins than fit are used. A request is kept on record with the tracker before and after it
(`Handling`), and everything is said of such records.
-/

namespace ChatEngine.ResponseTracker

/-! ### Requests -/

/-- What is asked of a tracker. -/
inductive Request where
  | put (origin : MessageId) (responses : List Response)
  | get (origin : MessageId)
  | remove (origin : MessageId)
  | contains (origin : MessageId)

/-- What a tracker answers. -/
inductive Reply where
  | done
  | found (responses : Option (List Response))
  | held (present : Bool)

/-- Answers a request. -/
def handle (t : ResponseTracker) : Request → Reply × ResponseTracker
  | .put origin responses => (.done, t.put origin responses)
  | .get origin => (.found (t.get origin).1, (t.get origin).2)
  | .remove origin => (.done, t.remove origin)
  | .contains origin => (.held (t.contains origin), t)

namespace Request

/-- The responses of an origin after a request that says what they are. -/
def sets? (origin : MessageId) : Request → Option (Option (List Response))
  | .put other responses =>
    if other = origin then some (if responses.isEmpty then none else some responses) else none
  | .remove other => if other = origin then some none else none
  | _ => none

/-- Whether a request takes the responses of an origin away. -/
def clears (origin : MessageId) (request : Request) : Bool := request.sets? origin = some none

/-- The origin that a tracker gives up to do what is asked. -/
def displaced? (t : ResponseTracker) : Request → Option MessageId
  | .put origin responses => t.displaced? origin responses
  | _ => none

/-- The requests that change nothing: asking whether an origin is held, and looking for, removing or
emptying one that is not. -/
inductive Inert (t : ResponseTracker) : Request → Prop
  | contains (origin : MessageId) : Inert t (.contains origin)
  | get {origin : MessageId} (absent : t.contains origin = false) : Inert t (.get origin)
  | remove {origin : MessageId} (absent : t.contains origin = false) : Inert t (.remove origin)
  | empty {origin : MessageId} (absent : t.contains origin = false) : Inert t (.put origin [])

end Request

/-- A request that was answered, with the tracker before and after. -/
structure Handling where
  request : Request
  reply : Reply
  before : ResponseTracker
  after : ResponseTracker

namespace Handling

/-- The origin used: its responses were recorded or found. -/
def use? (h : Handling) : Option MessageId :=
  match h.request, h.reply with
  | .put origin responses, _ => if responses.isEmpty then none else some origin
  | .get origin, .found (some _) => some origin
  | _, _ => none

/-- Whether an origin was lost, although nobody asked for that. -/
def evicts (h : Handling) (origin : MessageId) : Bool :=
  h.before.contains origin && !h.after.contains origin && !h.request.clears origin

end Handling

def handling (t : ResponseTracker) (request : Request) : Handling :=
  ⟨request, (t.handle request).1, t, (t.handle request).2⟩

/-- Answers requests one after the other and puts them in front of the past ones, the latest
first. -/
def serve : List Request → List Handling → ResponseTracker → List Handling × ResponseTracker
  | [], past, t => (past, t)
  | request :: rest, past, t => serve rest (t.handling request :: past) (t.handle request).2

/-- The origins used, the latest first. -/
def uses (past : List Handling) : List MessageId := past.filterMap Handling.use?

/-- The responses last recorded for an origin, unless they were taken away since. -/
def lastPut? (origin : MessageId) (past : List Handling) : Option (List Response) :=
  (past.findSome? (·.request.sets? origin)).join

/-- The responses last recorded for an origin, unless they were taken away or given up since. -/
def current? (origin : MessageId) (past : List Handling) : Option (List Response) :=
  (past.findSome? fun h =>
    if h.evicts origin then some none else h.request.sets? origin).join

/-- Bounded and least recently used: what a tracker of some capacity is after past requests. -/
structure LeastRecentlyUsed (capacity : Int) (past : List Handling) (t : ResponseTracker) :
    Prop where
  bounded : (t.size : Int) ≤ capacity
  finds : ∀ origin, (t.handle (.get origin)).1 = .found (current? origin past)
  holds : ∀ origin, (t.handle (.contains origin)).1 = .held (current? origin past).isSome
  /-- An origin is given up exactly for the responses of an origin that is not held, if the tracker
  is full; and it is the origin used longest ago, as all others held were used since. -/
  evicts_iff : ∀ request origin, (t.handling request).evicts origin = true ↔
    ∃ other responses, request = .put other responses ∧ responses ≠ [] ∧
      t.contains other = false ∧ (t.size : Int) = capacity ∧ t.contains origin = true ∧
      ∀ held, t.contains held = true → held ≠ origin → held ∈ usedSince origin (uses past)
  evicts_one : ∀ other responses, responses ≠ [] → t.contains other = false →
    (t.size : Int) = capacity → ∃! origin, (t.handling (.put other responses)).evicts origin = true
  /-- What was recorded stays while fewer other origins than fit are used. -/
  keeps : ∀ origin, ((usedSince origin (uses past)).dedup.length : Int) < capacity →
    (t.handle (.get origin)).1 = .found (lastPut? origin past)
  inert : ∀ request, request.Inert t → (t.handle request).2 = t

/-! ### Single requests -/

section
variable {t : ResponseTracker} {origin : MessageId}

lemma contains_eq (t : ResponseTracker) (origin : MessageId) :
    t.contains origin = (t.cache.peek? origin).isSome := rfl

lemma contains_eq_false : t.contains origin = false ↔ t.cache.peek? origin = none := by
  rw [contains_eq, Option.isSome_eq_false_iff, Option.isNone_iff_eq_none]

lemma put_nil (t : ResponseTracker) (origin : MessageId) : t.put origin [] = t.remove origin := rfl

lemma Sound.handle (h : t.Sound) (request : Request) : (t.handle request).2.Sound := by
  cases request with
  | put origin responses => exact h.put origin responses
  | get origin => exact h.get origin
  | remove origin => exact h.put origin []
  | contains origin => exact h

lemma handle_capacity (t : ResponseTracker) (request : Request) :
    (t.handle request).2.cache.capacity = t.cache.capacity := by
  cases request with
  | put origin responses =>
    unfold handle ResponseTracker.put
    dsimp only
    split <;> rfl
  | get origin => exact Lru.get_capacity t.cache origin
  | remove origin => rfl
  | contains origin => rfl

/-- What a request changes: the responses that it sets, and those of the origin given up for it. -/
lemma peek?_handle (h : t.Sound) (request : Request) (origin : MessageId) :
    (t.handle request).2.cache.peek? origin =
      if request.displaced? t = some origin then none
      else (request.sets? origin).getD (t.cache.peek? origin) := by
  have hput : ∀ other responses, (t.put other responses).cache.peek? origin =
      if t.displaced? other responses = some origin then none
      else ((Request.put other responses).sets? origin).getD (t.cache.peek? origin) := by
    intro other responses
    rw [peek?_put h, Request.sets?]
    by_cases ho : origin = other
    · subst ho
      rw [if_pos rfl, if_pos rfl, if_neg fun hd => displaced?_ne hd rfl, Option.getD_some]
    · rw [if_neg ho, if_neg fun he : other = origin => ho he.symm, Option.getD_none]
  cases request with
  | put other responses => exact hput other responses
  | get other => exact (peek?_get t other origin)
  | remove other =>
    rw [handle, ← put_nil, hput]
    rfl
  | contains other => rfl

/-- A tracker that gives up an origin for a request is full, and holds this origin last. -/
lemma displaced?_cases (h : t.Sound) {request : Request}
    (hd : request.displaced? t = some origin) :
    ∃ other responses, request = .put other responses ∧ responses ≠ [] ∧
      t.contains other = false ∧ t.size = t.cache.capacity ∧
      ∃ front, t.cache.entries.map Prod.fst = front ++ [origin] := by
  cases request with
  | put other responses =>
    change t.displaced? other responses = some origin at hd
    unfold ResponseTracker.displaced? Lru.displaced? at hd
    split_ifs at hd with hempty hroom
    obtain ⟨hnew, hfull⟩ := not_or.mp hroom
    have hfits := h.bounded.fits
    obtain ⟨e, he, rfl⟩ := Option.map_eq_some_iff.mp hd
    obtain ⟨front, hentries⟩ := List.getLast?_eq_some_iff.mp he
    refine ⟨other, responses, rfl, by simpa using hempty, by simpa [contains] using hnew, ?_,
      front.map Prod.fst, by rw [hentries, List.map_append]; rfl⟩
    unfold Lru.size at hfull
    unfold ResponseTracker.size Lru.size
    omega
  | _ => cases hd

lemma contains_of_displaced? (h : t.Sound) {request : Request}
    (hd : request.displaced? t = some origin) : t.contains origin = true := by
  obtain ⟨-, -, -, -, -, -, front, hkeys⟩ := displaced?_cases h hd
  refine Lru.contains_iff.mpr ?_
  rw [hkeys]
  exact List.mem_append_right _ (List.mem_singleton_self origin)

lemma not_clears_of_displaced? {request : Request} (h : request.displaced? t = some origin) :
    request.clears origin = false := by
  cases request with
  | put other responses =>
    have hne : other ≠ origin := fun he => displaced?_ne h he.symm
    simp [Request.clears, Request.sets?, hne]
  | _ => cases h

/-- What is lost without being asked for is given up to make room. -/
lemma evicts_handling_iff (h : t.Sound) (request : Request) :
    (t.handling request).evicts origin = true ↔ request.displaced? t = some origin := by
  unfold Handling.evicts handling
  dsimp only
  rw [contains_eq (t.handle request).2, peek?_handle h]
  constructor
  · intro hlost
    by_contra hd
    rw [if_neg hd] at hlost
    cases hs : request.sets? origin with
    | none =>
      rw [hs, Option.getD_none, ← contains_eq] at hlost
      simp at hlost
    | some responses =>
      cases responses <;> simp [Request.clears, hs] at hlost
  · intro hd
    simp [hd, contains_of_displaced? h hd, not_clears_of_displaced? hd]

lemma Request.Inert.handle {request : Request} (h : request.Inert t) :
    (t.handle request).2 = t := by
  have hremove : ∀ origin, t.contains origin = false → t.remove origin = t := by
    intro origin absent
    have hmem : origin ∉ t.cache.entries.map Prod.fst := by
      rw [← Lru.contains_iff, Bool.not_eq_true]
      exact absent
    unfold ResponseTracker.remove Lru.erase
    rw [Entries.erase_of_not_mem hmem]
  cases h with
  | contains origin => rfl
  | get absent => exact get_of_peek?_none (contains_eq_false.mp absent)
  | remove absent => exact hremove _ absent
  | empty absent => exact hremove _ absent

end

/-! ### Histories -/

lemma uses_cons (h : Handling) (past : List Handling) :
    uses (h :: past) = h.use?.toList ++ uses past := by
  unfold uses
  cases hu : h.use? <;> simp [hu]

lemma lastPut?_cons (origin : MessageId) (h : Handling) (past : List Handling) :
    lastPut? origin (h :: past) = (h.request.sets? origin).getD (lastPut? origin past) := by
  unfold lastPut?
  rw [List.findSome?_cons]
  cases h.request.sets? origin <;> rfl

lemma current?_cons (origin : MessageId) (h : Handling) (past : List Handling) :
    current? origin (h :: past) =
      if h.evicts origin then none
      else (h.request.sets? origin).getD (current? origin past) := by
  unfold current?
  rw [List.findSome?_cons]
  split_ifs
  · rfl
  · cases h.request.sets? origin <;> rfl

/-- What is held is what was last recorded. -/
lemma lastPut?_of_current? {origin : MessageId} {responses : List Response} {past : List Handling}
    (h : current? origin past = some responses) : lastPut? origin past = some responses := by
  induction past with
  | nil => cases h
  | cons first past ih =>
    rw [current?_cons] at h
    rw [lastPut?_cons]
    split_ifs at h
    cases hs : first.request.sets? origin with
    | none =>
      rw [hs, Option.getD_none] at h
      rw [Option.getD_none]
      exact ih h
    | some value =>
      rw [hs] at h
      exact h

/-- Of two keys only one was used since the latest use of the other. -/
lemma not_mem_usedSince_of_mem {κ : Type} [DecidableEq κ] {a b : κ} {uses : List κ}
    (h : a ∈ usedSince b uses) : b ∉ usedSince a uses := by
  unfold usedSince at *
  induction uses with
  | nil => cases h
  | cons u uses ih =>
    by_cases hb : u = b
    · simp [hb] at h
    · rw [List.takeWhile_cons_of_pos (by simpa using hb), List.mem_cons] at h
      by_cases ha : u = a
      · simp [ha]
      · rw [List.takeWhile_cons_of_pos (by simpa using ha), List.mem_cons, not_or]
        refine ⟨fun he => hb he.symm, ih (h.resolve_left fun he => ha he.symm)⟩

/-- What all operations keep of a tracker and of the requests that led to it. -/
structure Remembers (past : List Handling) (t : ResponseTracker) : Prop where
  sound : t.Sound
  /-- The origins are held in the order of their latest uses. -/
  ordered : (t.cache.entries.map Prod.fst).Sublist (recency (uses past))
  current : ∀ origin, t.cache.peek? origin = current? origin past
  kept : ∀ origin, (usedSince origin (uses past)).dedup.length < t.cache.capacity →
    t.cache.peek? origin = lastPut? origin past

namespace Remembers

variable {past : List Handling} {t : ResponseTracker}

lemma start {capacity : Int} (created : create? capacity = some t) : Remembers [] t := by
  have hsound := create?_sound created
  unfold create? at created
  split at created
  · cases created
  · cases created
    exact ⟨hsound, List.nil_sublist _, fun _ => rfl, fun _ _ => rfl⟩

/-- The origins held in front of the last one were all used since. -/
lemma used_since (hr : Remembers past t) {front : List MessageId} {last : MessageId}
    (hkeys : t.cache.entries.map Prod.fst = front ++ [last]) :
    ∀ held ∈ front, held ∈ usedSince last (uses past) := by
  have hsub := hr.ordered
  have hdistinct := nodup_recency (uses past)
  rw [hkeys, List.append_sublist_iff] at hsub
  obtain ⟨before, after, hsplit, hfront, hlast⟩ := hsub
  rw [hsplit] at hdistinct
  have hnot : last ∉ before := fun hm =>
    (List.nodup_append.mp hdistinct).2.2 last hm last (List.singleton_sublist.mp hlast) rfl
  intro held hheld
  rw [← mem_recency, ← takeWhile_recency, hsplit, List.takeWhile_append_of_pos]
  · exact List.mem_append_left _ (hfront.subset hheld)
  · intro k hk
    simpa using fun he : k = last => hnot (he ▸ hk)

lemma oldest (hr : Remembers past t) {request : Request} {origin : MessageId}
    (hd : request.displaced? t = some origin) :
    ∀ held, t.contains held = true → held ≠ origin → held ∈ usedSince origin (uses past) := by
  obtain ⟨-, -, -, -, -, -, front, hkeys⟩ := displaced?_cases hr.sound hd
  intro held hheld hne
  have hmem := Lru.contains_iff.mp hheld
  rw [hkeys, List.mem_append, List.mem_singleton] at hmem
  exact hr.used_since hkeys held (hmem.resolve_right hne)

/-- Before an origin is given up, as many others as fit were used, the new one included. -/
lemma crowded (hr : Remembers past t) {request : Request} {origin : MessageId}
    (hd : request.displaced? t = some origin) :
    t.cache.capacity ≤
      (usedSince origin (uses (t.handling request :: past))).dedup.length := by
  obtain ⟨other, responses, rfl, hresponses, hnew, hfull, front, hkeys⟩ := displaced?_cases hr.sound hd
  have hne : other ≠ origin := fun he => displaced?_ne hd he.symm
  have huses : uses (t.handling (.put other responses) :: past) = other :: uses past := by
    simp [uses_cons, handling, Handling.use?, hresponses]
  have hsince : usedSince origin (other :: uses past) = other :: usedSince origin (uses past) :=
    List.takeWhile_cons_of_pos (by simpa using hne)
  have hnot : other ∉ t.cache.entries.map Prod.fst := by
    rw [← Lru.contains_iff, Bool.not_eq_true]
    exact hnew
  have hdistinct := hr.sound.bounded.distinct
  rw [hkeys] at hnot hdistinct
  have hnodup : (other :: front).Nodup :=
    List.nodup_cons.mpr ⟨fun hm => hnot (List.mem_append_left _ hm),
      (List.nodup_append.mp hdistinct).1⟩
  have hsubset : (other :: front) ⊆ (other :: usedSince origin (uses past)).dedup := by
    intro k hk
    rw [List.mem_dedup, List.mem_cons]
    exact (List.mem_cons.mp hk).imp_right (hr.used_since hkeys k)
  have hlength := congrArg List.length hkeys
  rw [List.length_map, List.length_append, List.length_singleton] at hlength
  have hcount := (List.subperm_of_subset hnodup hsubset).length_le
  rw [List.length_cons] at hcount
  rw [huses, hsince]
  unfold ResponseTracker.size Lru.size at hfull
  omega

/-! What one request keeps -/

lemma current_handle (hr : Remembers past t) (request : Request) (origin : MessageId) :
    (t.handle request).2.cache.peek? origin = current? origin (t.handling request :: past) := by
  have hevicts : (t.handling request).evicts origin = true ↔ request.displaced? t = some origin :=
    evicts_handling_iff hr.sound request
  rw [peek?_handle hr.sound, current?_cons, hr.current origin]
  simp only [hevicts]
  rfl

lemma ordered_handle (hr : Remembers past t) (request : Request) :
    ((t.handle request).2.cache.entries.map Prod.fst).Sublist
      (recency (uses (t.handling request :: past))) := by
  have herase : ∀ origin, ((Entries.erase origin t.cache.entries).map Prod.fst).Sublist
      (recency (uses past)) := fun origin => (Entries.keys_erase_sublist _ _).trans hr.ordered
  have hused : ∀ origin, (origin :: (Entries.erase origin t.cache.entries).map Prod.fst).Sublist
      (recency (origin :: uses past)) := by
    intro origin
    rw [Lru.keys_erase]
    exact (hr.ordered.filter _).cons_cons origin
  rw [uses_cons]
  cases request with
  | put origin responses =>
    cases hempty : responses.isEmpty with
    | true =>
      rw [List.isEmpty_iff.mp hempty]
      exact herase origin
    | false =>
      have hput : t.put origin responses = ⟨t.cache.put origin responses⟩ := by
        rw [put, hempty, if_neg Bool.false_ne_true]
      have huse : (t.handling (.put origin responses)).use? = some origin := by
        simp [handling, Handling.use?, hempty]
      rw [huse]
      unfold handle
      dsimp only
      rw [hput]
      exact ((List.take_sublist _ _).map _).trans (hused origin)
  | get origin =>
    cases hfound : t.cache.peek? origin with
    | none =>
      have huse : (t.handling (.get origin)).use? = none := by
        simp [handling, handle, Handling.use?, hfound]
      have hsame : (t.handle (.get origin)).2 = t := get_of_peek?_none hfound
      rw [huse, hsame]
      exact hr.ordered
    | some responses =>
      have huse : (t.handling (.get origin)).use? = some origin := by
        simp [handling, handle, Handling.use?, hfound]
      have hentries : (t.handle (.get origin)).2.cache.entries =
          (origin, responses) :: Entries.erase origin t.cache.entries := Lru.get_entries hfound
      rw [huse, hentries]
      exact hused origin
  | remove origin => exact herase origin
  | contains origin => exact hr.ordered

/-- Fewer others than fit were used before a request as well, unless it is itself a use. -/
lemma few_before {request : Request} {origin : MessageId}
    (hother : (t.handling request).use? ≠ some origin) :
    (usedSince origin (uses past)).dedup.length ≤
      (usedSince origin (uses (t.handling request :: past))).dedup.length := by
  rw [uses_cons]
  cases huse : (t.handling request).use? with
  | none => exact Nat.le_refl _
  | some used =>
    have hne : used ≠ origin := fun he => hother (huse.trans (congrArg some he))
    have hsince : usedSince origin (used :: uses past) = used :: usedSince origin (uses past) :=
      List.takeWhile_cons_of_pos (by simpa using hne)
    rw [Option.toList_some, List.singleton_append, hsince]
    have hsubset : (usedSince origin (uses past)).dedup ⊆
        (used :: usedSince origin (uses past)).dedup := by
      intro k hk
      rw [List.mem_dedup] at hk ⊢
      exact List.mem_cons_of_mem _ hk
    exact (List.subperm_of_subset (List.nodup_dedup _) hsubset).length_le

lemma kept_handle (hr : Remembers past t) (request : Request) (origin : MessageId)
    (few : (usedSince origin (uses (t.handling request :: past))).dedup.length <
      t.cache.capacity) :
    (t.handle request).2.cache.peek? origin = lastPut? origin (t.handling request :: past) := by
  have hstays : request.displaced? t ≠ some origin := fun hd =>
    Nat.not_lt.mpr (hr.crowded hd) few
  rw [peek?_handle hr.sound, if_neg hstays, lastPut?_cons]
  change _ = (request.sets? origin).getD _
  cases hs : request.sets? origin with
  | some value => rfl
  | none =>
    rw [Option.getD_none, Option.getD_none]
    by_cases huse : (t.handling request).use? = some origin
    · -- Only finding the origin uses it without setting its responses.
      cases request with
      | get other =>
        cases hfound : t.cache.peek? other with
        | none => simp [handling, handle, Handling.use?, hfound] at huse
        | some responses =>
          obtain rfl : other = origin := by
            simpa [handling, handle, Handling.use?, hfound] using huse
          rw [hfound]
          exact (lastPut?_of_current? ((hr.current _).symm.trans hfound)).symm
      | put other responses =>
        by_cases he : other = origin
        · simp [Request.sets?, he] at hs
        · simp [handling, Handling.use?, he] at huse
      | remove other => simp [handling, Handling.use?] at huse
      | contains other => simp [handling, Handling.use?] at huse
    · exact hr.kept origin (Nat.lt_of_le_of_lt (few_before huse) few)

lemma handle (hr : Remembers past t) (request : Request) :
    Remembers (t.handling request :: past) (t.handle request).2 where
  sound := hr.sound.handle request
  ordered := hr.ordered_handle request
  current := hr.current_handle request
  kept origin few := hr.kept_handle request origin (by rwa [handle_capacity] at few)

lemma serve (hr : Remembers past t) (requests : List Request) :
    Remembers (t.serve requests past).1 (t.serve requests past).2 := by
  induction requests generalizing past t with
  | nil => exact hr
  | cons request rest ih => exact ih (hr.handle request)

end Remembers

lemma serve_capacity (requests : List Request) (past : List Handling) (t : ResponseTracker) :
    (t.serve requests past).2.cache.capacity = t.cache.capacity := by
  induction requests generalizing past t with
  | nil => rfl
  | cons request rest ih => exact (ih _ _).trans (handle_capacity t request)

namespace Remembers

variable {past : List Handling} {t : ResponseTracker}

lemma displaced?_of_full (hr : Remembers past t) {other : MessageId} {responses : List Response}
    (hresponses : responses ≠ []) (hnew : t.contains other = false)
    (hfull : t.size = t.cache.capacity) :
    ∃ origin, (Request.put other responses).displaced? t = some origin := by
  have hpositive := hr.sound.bounded.positive
  have hroom : ¬(t.cache.contains other = true ∨ t.cache.size < t.cache.capacity) := by
    rintro (hheld | hless)
    · exact Bool.false_ne_true (hnew.symm.trans hheld)
    · exact Nat.ne_of_lt hless hfull
  have hnonempty : t.cache.entries ≠ [] := by
    unfold ResponseTracker.size Lru.size at hfull
    exact List.ne_nil_of_length_pos (by omega)
  refine ⟨(t.cache.entries.getLast hnonempty).1, ?_⟩
  change t.displaced? other responses = _
  unfold ResponseTracker.displaced? Lru.displaced?
  rw [if_neg (by simpa using hresponses), if_neg hroom, List.getLast?_eq_some_getLast hnonempty,
    Option.map_some]

/-- Of the origins held, the one used longest ago is given up. -/
lemma displaced?_of_oldest (hr : Remembers past t) {other origin : MessageId}
    {responses : List Response} (hresponses : responses ≠ []) (hnew : t.contains other = false)
    (hfull : t.size = t.cache.capacity) (hheld : t.contains origin = true)
    (holdest : ∀ held, t.contains held = true → held ≠ origin →
      held ∈ usedSince origin (uses past)) :
    (Request.put other responses).displaced? t = some origin := by
  obtain ⟨last, hd⟩ := hr.displaced?_of_full hresponses hnew hfull
  by_cases hlast : last = origin
  · rwa [← hlast]
  · have hbefore := holdest last (contains_of_displaced? hr.sound hd) hlast
    have hafter := hr.oldest hd origin hheld fun he => hlast he.symm
    exact absurd hafter (not_mem_usedSince_of_mem hbefore)

lemma leastRecentlyUsed (hr : Remembers past t) {capacity : Int}
    (hcapacity : (t.cache.capacity : Int) = capacity) : LeastRecentlyUsed capacity past t where
  bounded := by
    have hfits := hr.sound.bounded.fits
    unfold ResponseTracker.size Lru.size
    omega
  finds origin := by
    rw [← hr.current, ← get_fst]
    rfl
  holds origin := by
    rw [← hr.current, ← contains_eq]
    rfl
  evicts_iff request origin := by
    rw [evicts_handling_iff hr.sound]
    constructor
    · intro hd
      obtain ⟨other, responses, hrequest, hresponses, hnew, hfull, -⟩ :=
        displaced?_cases hr.sound hd
      exact ⟨other, responses, hrequest, hresponses, hnew, by omega,
        contains_of_displaced? hr.sound hd, hr.oldest hd⟩
    · rintro ⟨other, responses, rfl, hresponses, hnew, hfull, hheld, holdest⟩
      exact hr.displaced?_of_oldest hresponses hnew (by omega) hheld holdest
  evicts_one other responses hresponses hnew hfull := by
    obtain ⟨origin, hd⟩ := hr.displaced?_of_full hresponses hnew (by omega)
    refine ⟨origin, (evicts_handling_iff hr.sound _).mpr hd, fun lost hlost => ?_⟩
    have hlost := (evicts_handling_iff hr.sound _).mp hlost
    exact Option.some.inj (hlost.symm.trans hd)
  keeps origin few := by
    rw [← hr.kept origin (by omega), ← get_fst]
    rfl
  inert _ h := h.handle

end Remembers

/-- Whatever was asked of a new tracker, it is bounded and least recently used. -/
theorem tracker_is_least_recently_used {capacity : Int} (positive : 1 ≤ capacity)
    (requests : List Request) :
    ∃ new, create? capacity = some new ∧
      LeastRecentlyUsed capacity (new.serve requests []).1 (new.serve requests []).2 := by
  have created : create? capacity = some ⟨{ capacity := capacity.toNat }⟩ :=
    if_neg (Int.not_lt.mpr positive)
  refine ⟨_, created, ((Remembers.start created).serve requests).leastRecentlyUsed ?_⟩
  rw [serve_capacity]
  exact Int.toNat_of_nonneg (by omega)

/-- A tracker with room for two: the first origin is found again, so the third one displaces the
second, and the first keeps its responses. -/
theorem found_origin_outlives_older : ∃ new, create? 2 = some new ∧
    let answer : List Response := [⟨.fallback, ⟨"C", "200.0"⟩⟩]
    let (past, t) := new.serve [.put ⟨"C", "1"⟩ answer, .put ⟨"C", "2"⟩ answer,
      .get ⟨"C", "1"⟩, .contains ⟨"C", "2"⟩, .put ⟨"C", "3"⟩ answer] []
    LeastRecentlyUsed 2 past t ∧ past.head?.any (·.evicts ⟨"C", "2"⟩) = true ∧
      (t.handle (.get ⟨"C", "1"⟩)).1 = .found (some answer) := by
  obtain ⟨new, created, h⟩ := tracker_is_least_recently_used (by decide : (1 : Int) ≤ 2)
    [.put ⟨"C", "1"⟩ [⟨.fallback, ⟨"C", "200.0"⟩⟩], .put ⟨"C", "2"⟩ [⟨.fallback, ⟨"C", "200.0"⟩⟩],
      .get ⟨"C", "1"⟩, .contains ⟨"C", "2"⟩, .put ⟨"C", "3"⟩ [⟨.fallback, ⟨"C", "200.0"⟩⟩]]
  have hnew : new = ⟨{ capacity := 2 }⟩ := (Option.some.inj created).symm
  refine ⟨new, created, h, ?_, ?_⟩
  · rw [hnew]
    decide
  · rw [hnew]
    rfl

end ChatEngine.ResponseTracker
