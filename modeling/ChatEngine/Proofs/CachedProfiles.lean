import ChatEngine.Directory
import ChatEngine.Proofs.OutboxCalls
import ChatEngine.Proofs.Recency

/-!
# Cached profiles

User look-ups through a cache, one after the other. The directory may change between them. Whether
a look-up goes to the directory depends on the earlier look-ups alone: it does if the user was never
looked up with success, or if as many other users as the cache has room for were looked up with
success since. What the cache answers is what the directory answered last for that user.

To see when the directory is asked, it is run with a journal (`journaled`) that a look-up hands out;
`lookUp_eq` shows that the journal changes nothing.
-/

namespace ChatEngine

variable {σ : Type}

/-! ### Single look-ups -/

/-- What a directory was asked, and what it said. -/
abbrev Journal := List (String × Except Fault UserProfile)

/-- A directory that keeps a journal. -/
def journaled (find : UserFinder σ) : UserFinder (σ × Journal) := fun userId =>
  Effect.of fun w =>
    let (answer, world) := (find userId).run w.1
    (answer, world, w.2 ++ [(userId, answer)])

/-- A look-up: whose profile was looked up, what the directory was asked meanwhile, and how it
ended. -/
structure Lookup where
  userId : String
  asked : Journal
  result : Except Fault UserProfile

/-- Looks a user up through the cache, with a journal of what the directory is asked. -/
def lookUp (find : UserFinder σ) (userId : String) : StateM (Host σ) Lookup := fun h =>
  let (result, after) := (cachedFinder (fun id => Host.outside (journaled find id)) userId).run
    { world := (h.world, []), metrics := h.metrics, log := h.log, profiles := h.profiles }
  (⟨userId, after.world.2, result⟩,
    { world := after.world.1, metrics := after.metrics, log := after.log
      profiles := after.profiles })

/-- Counts and logs what came of asking the cache. -/
def noteCache (found : Bool) (userId : String) (h : Host σ) : Host σ :=
  let outcome := if found then "hit" else "miss"
  { h with
    metrics := h.metrics.count .cacheLookups [("cache", "user_info"), ("result", outcome)]
    log := ⟨.debug, "cache_" ++ outcome,
      [("cache", .str "user_info"), ("user_id", .str userId)]⟩ :: h.log }

/-- The cache after the directory was asked: only a profile is kept. -/
def cacheAfter (cache : Lru String UserProfile) (userId : String) :
    Except Fault UserProfile → Lru String UserProfile
  | .ok profile => cache.put userId profile
  | .error _ => cache

section
variable (find : UserFinder σ) {userId : String} {h : Host σ} {cache : Lru String UserProfile}

lemma cachedFinder_bare (hbare : h.profiles = none) :
    (cachedFinder (fun id => Host.outside (find id)) userId).run h =
      (Host.outside (find userId)).run h := by
  unfold cachedFinder
  dsimp only
  rw [Effect.get_bind_run, hbare]

lemma cachedFinder_hit {profile : UserProfile} (hcache : h.profiles = some cache)
    (found : cache.peek? userId = some profile) :
    (cachedFinder (fun id => Host.outside (find id)) userId).run h =
      (.ok profile, { noteCache true userId h with profiles := some (cache.get userId).2 }) := by
  have hget : cache.get userId = (some profile, (cache.get userId).2) := by
    rw [← found, ← Lru.get_fst]
  unfold cachedFinder
  dsimp only
  rw [Effect.get_bind_run, hcache]
  dsimp only
  rw [hget]
  rfl

lemma cachedFinder_miss (hcache : h.profiles = some cache) (absent : cache.peek? userId = none) :
    (cachedFinder (fun id => Host.outside (find id)) userId).run h =
      (((find userId).run h.world).1, { noteCache false userId h with
        world := ((find userId).run h.world).2
        profiles := some (cacheAfter cache userId ((find userId).run h.world).1) }) := by
  have hget : cache.get userId = (none, cache) :=
    Prod.ext ((Lru.get_fst cache userId).trans absent) (Lru.get_of_peek?_none absent)
  unfold cachedFinder
  dsimp only
  rw [Effect.get_bind_run, hcache]
  dsimp only
  rw [hget]
  change (Host.outside (find userId) >>= fun profile => _ : Effect (Host σ) UserProfile).run
    { noteCache false userId h with profiles := some cache } = _
  rw [Effect.bind_run, Host.outside_run]
  dsimp only [noteCache]
  cases (find userId).run h.world with
  | mk answer after => cases answer <;> rfl

lemma lookUp_bare (hbare : h.profiles = none) :
    lookUp find userId h =
      (⟨userId, [(userId, ((find userId).run h.world).1)], ((find userId).run h.world).1⟩,
        { h with world := ((find userId).run h.world).2 }) := by
  unfold lookUp
  rw [cachedFinder_bare (journaled find) hbare]
  rfl

lemma lookUp_hit {profile : UserProfile} (hcache : h.profiles = some cache)
    (found : cache.peek? userId = some profile) :
    lookUp find userId h = (⟨userId, [], .ok profile⟩,
      { noteCache true userId h with profiles := some (cache.get userId).2 }) := by
  unfold lookUp
  rw [cachedFinder_hit (journaled find) hcache found]
  rfl

lemma lookUp_miss (hcache : h.profiles = some cache) (absent : cache.peek? userId = none) :
    lookUp find userId h =
      (⟨userId, [(userId, ((find userId).run h.world).1)], ((find userId).run h.world).1⟩,
        { noteCache false userId h with
          world := ((find userId).run h.world).2
          profiles := some (cacheAfter cache userId ((find userId).run h.world).1) }) := by
  unfold lookUp
  rw [cachedFinder_miss (journaled find) hcache absent]
  rfl

/-- The journal aside, a look-up is a run of the cached finder. -/
theorem lookUp_eq (userId : String) (h : Host σ) :
    ((lookUp find userId h).1.result, (lookUp find userId h).2) =
      (cachedFinder (fun id => Host.outside (find id)) userId).run h := by
  cases hcache : h.profiles with
  | none => rw [lookUp_bare find hcache, cachedFinder_bare find hcache, Host.outside_run]
  | some cache =>
    cases hfound : cache.peek? userId with
    | none => rw [lookUp_miss find hcache hfound, cachedFinder_miss find hcache hfound]
    | some profile => rw [lookUp_hit find hcache hfound, cachedFinder_hit find hcache hfound]

end

/-! ### Look-ups in a row -/

/-- A look-up to come, and what happens in the world before it. -/
structure Inquiry (σ : Type) where
  userId : String
  change : σ → σ := id

/-- Makes a look-up after the world has changed. -/
def Inquiry.make (find : UserFinder σ) (q : Inquiry σ) : StateM (Host σ) Lookup := fun h =>
  lookUp find q.userId { h with world := q.change h.world }

/-- Makes look-ups one after the other and puts them in front of the past ones, the latest
first. -/
def lookUps (find : UserFinder σ) : List (Inquiry σ) → List Lookup → StateM (Host σ) (List Lookup)
  | [], past => pure past
  | q :: inquiries, past => do
    let l ← q.make find
    lookUps find inquiries (l :: past)

namespace Lookup

/-- The user, if the look-up had success. -/
def used? (l : Lookup) : Option String :=
  match l.result with
  | .ok _ => some l.userId
  | .error _ => none

/-- The profile that the directory answered last for a user during the look-up. -/
def fetched? (userId : String) (l : Lookup) : Option UserProfile :=
  l.asked.reverse.findSome? fun q => if q.1 = userId then q.2.toOption else none

end Lookup

/-- The users looked up with success, the latest first. -/
def uses (past : List Lookup) : List String := past.filterMap Lookup.used?

/-- The profile that the directory answered last for a user. -/
def lastFetched? (userId : String) (past : List Lookup) : Option UserProfile :=
  past.findSome? (Lookup.fetched? userId)

/-- What a cache remembers of past look-ups: the users used last, each with the profile that the
directory answered last. -/
structure Remembers (cache : Lru String UserProfile) (past : List Lookup) : Prop where
  bounded : cache.Bounded
  recent : cache.Recent (uses past)
  latest : ∀ {userId : String} {profile : UserProfile},
    cache.peek? userId = some profile → lastFetched? userId past = some profile

namespace Remembers

variable {cache : Lru String UserProfile} {past : List Lookup}

lemma hit (hr : Remembers cache past) {userId : String} {profile : UserProfile}
    (found : cache.peek? userId = some profile) :
    Remembers (cache.get userId).2 (⟨userId, [], .ok profile⟩ :: past) where
  bounded := hr.bounded.get userId
  recent := hr.recent.get found
  latest hpeek := hr.latest (by rwa [Lru.peek?_get] at hpeek)

lemma miss_ok (hr : Remembers cache past) (userId : String) (profile : UserProfile) :
    Remembers (cache.put userId profile)
      (⟨userId, [(userId, .ok profile)], .ok profile⟩ :: past) where
  bounded := hr.bounded.put userId profile
  recent := hr.recent.put userId profile
  latest {u p} hpeek := by
    rw [Lru.peek?_put hr.bounded] at hpeek
    by_cases hu : u = userId
    · rw [if_pos hu] at hpeek
      simpa [lastFetched?, Lookup.fetched?, hu, Except.toOption] using hpeek
    · rw [if_neg hu] at hpeek
      split at hpeek
      · cases hpeek
      · have hu' : userId ≠ u := fun h => hu h.symm
        simpa [lastFetched?, Lookup.fetched?, hu'] using hr.latest hpeek

lemma miss_error (hr : Remembers cache past) (userId : String) (fault : Fault) :
    Remembers cache (⟨userId, [(userId, .error fault)], .error fault⟩ :: past) where
  bounded := hr.bounded
  recent := hr.recent
  latest hpeek := by simpa [lastFetched?, Lookup.fetched?, Except.toOption] using hr.latest hpeek

end Remembers

/-- How a look-up of a user comes out after past ones, with a cache of some capacity and a directory
that would answer so. -/
structure Lookup.LeastRecentlyUsed (l : Lookup) (capacity : Int) (past : List Lookup)
    (userId : String) (answer : Except Fault UserProfile) : Prop where
  /-- The directory is asked if and only if there is no cache, the user was never looked up with
  success, or as many other users as the cache has room for were since. -/
  asks_iff : l.asked ≠ [] ↔ capacity ≤ 0 ∨ userId ∉ uses past ∨
    capacity ≤ (usedSince userId (uses past)).dedup.length
  asking : l.asked ≠ [] → l.asked = [(userId, answer)] ∧ l.result = answer
  remembering : l.asked = [] → ∃ profile,
    l.result = .ok profile ∧ lastFetched? userId past = some profile

/-- What is kept of past look-ups, with a cache of some capacity or without one. -/
def Kept (capacity : Int) (past : List Lookup) : Option (Lru String UserProfile) → Prop
  | none => capacity ≤ 0
  | some cache => cache.capacity = capacity ∧ Remembers cache past

namespace Kept

variable {capacity : Int} {past : List Lookup} {h : Host σ}

lemma profileCache (capacity : Int) : Kept capacity [] (profileCache capacity) := by
  unfold ChatEngine.profileCache
  split
  · next hpos =>
    have hroom : 0 < capacity.toNat := by omega
    refine ⟨Int.toNat_of_nonneg (by omega), ⟨List.nodup_nil, Nat.zero_le _, hroom⟩, ?_, ?_⟩
    · exact List.take_nil.symm
    · intro u p hpeek
      cases hpeek
  · next hpos => exact Int.not_lt.mp hpos

/-- What one look-up preserves. -/
lemma lookUp (hk : Kept capacity past h.profiles) (find : UserFinder σ) (userId : String) :
    Kept capacity ((lookUp find userId h).1 :: past) (lookUp find userId h).2.profiles := by
  cases hcache : h.profiles with
  | none =>
    rw [hcache] at hk
    rw [lookUp_bare find hcache, hcache]
    exact hk
  | some cache =>
    rw [hcache] at hk
    obtain ⟨hcap, hr⟩ := hk
    cases hfound : cache.peek? userId with
    | some profile =>
      rw [lookUp_hit find hcache hfound]
      exact ⟨by simpa using hcap, hr.hit hfound⟩
    | none =>
      rw [lookUp_miss find hcache hfound]
      cases ((find userId).run h.world).1 with
      | ok profile => exact ⟨hcap, hr.miss_ok userId profile⟩
      | error fault => exact ⟨hcap, hr.miss_error userId fault⟩

/-- What look-ups in a row preserve. -/
lemma lookUps (hk : Kept capacity past h.profiles) (find : UserFinder σ)
    (inquiries : List (Inquiry σ)) :
    Kept capacity (lookUps find inquiries past h).1 (lookUps find inquiries past h).2.profiles := by
  induction inquiries generalizing past h with
  | nil => exact hk
  | cons q inquiries ih =>
    exact ih (Kept.lookUp (h := { h with world := q.change h.world }) hk find q.userId)

lemma leastRecentlyUsed (hk : Kept capacity past h.profiles) (find : UserFinder σ)
    (userId : String) :
    (ChatEngine.lookUp find userId h).1.LeastRecentlyUsed capacity past userId
      ((find userId).run h.world).1 := by
  cases hcache : h.profiles with
  | none =>
    rw [hcache] at hk
    rw [lookUp_bare find hcache]
    exact ⟨iff_of_true (List.cons_ne_nil _ _) (.inl hk), fun _ => ⟨rfl, rfl⟩,
      fun h => absurd h (List.cons_ne_nil _ _)⟩
  | some cache =>
    rw [hcache] at hk
    obtain ⟨hcap, hr⟩ := hk
    have hpos := hr.bounded.positive
    have hheld := hr.recent.contains_iff userId
    cases hfound : cache.peek? userId with
    | some profile =>
      rw [Lru.contains, hfound, Option.isSome_some] at hheld
      obtain ⟨hused, hfew⟩ := hheld.mp rfl
      rw [lookUp_hit find hcache hfound]
      refine ⟨iff_of_false (fun h => h rfl) ?_, fun h => absurd rfl h,
        fun _ => ⟨profile, rfl, hr.latest hfound⟩⟩
      rintro (hnone | hnever | hmany)
      · omega
      · exact hnever hused
      · omega
    | none =>
      rw [Lru.contains, hfound, Option.isSome_none] at hheld
      rw [lookUp_miss find hcache hfound]
      refine ⟨iff_of_true (List.cons_ne_nil _ _) ?_, fun _ => ⟨rfl, rfl⟩,
        fun h => absurd h (List.cons_ne_nil _ _)⟩
      by_cases hused : userId ∈ uses past
      · have hmany : ¬(usedSince userId (uses past)).dedup.length < cache.capacity :=
          fun hfew => Bool.false_ne_true (hheld.mpr ⟨hused, hfew⟩)
        omega
      · exact .inr (.inl hused)

end Kept

lemma lookUp_failed (find : UserFinder σ) {userId : String} {h : Host σ} {fault : Fault}
    (failed : (lookUp find userId h).1.result = .error fault) :
    (lookUp find userId h).2.profiles = h.profiles := by
  cases hcache : h.profiles with
  | none => rw [lookUp_bare find hcache, hcache]
  | some cache =>
    cases hfound : cache.peek? userId with
    | some profile =>
      rw [lookUp_hit find hcache hfound] at failed
      cases failed
    | none =>
      rw [lookUp_miss find hcache hfound] at failed ⊢
      dsimp only at failed ⊢
      rw [failed, cacheAfter]

/-- The cache is exactly least recently used: after any look-ups, through a directory that changes
between them, the next one is a look-up through the cached finder, asks the directory or not as the
latest uses say, and comes out accordingly. One that fails changes nothing of the cache. -/
theorem profiles_are_least_recently_used (find : UserFinder σ) (capacity : Int) (h : Host σ)
    (inquiries : List (Inquiry σ)) (next : Inquiry σ) :
    let (past, now) := lookUps find inquiries [] { h with profiles := profileCache capacity }
    let answer := ((find next.userId).run (next.change now.world)).1
    let (l, after) := next.make find now
    (l.result, after) = (cachedFinder (fun id => Host.outside (find id)) next.userId).run
        { now with world := next.change now.world } ∧
      l.LeastRecentlyUsed capacity past next.userId answer ∧
      ∀ fault, l.result = .error fault → after.profiles = now.profiles := by
  have hkept := Kept.lookUps (h := { h with profiles := profileCache capacity })
    (Kept.profileCache capacity) find inquiries
  generalize lookUps find inquiries [] _ = run at hkept ⊢
  obtain ⟨past, now⟩ := run
  exact ⟨lookUp_eq find next.userId _, Kept.leastRecentlyUsed (h := { now with world := next.change now.world }) hkept find
    next.userId, fun _ failed => lookUp_failed find failed⟩

end ChatEngine
