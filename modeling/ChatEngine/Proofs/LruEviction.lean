import ChatEngine.Responses
import Mathlib.Data.List.Nodup
import Mathlib.Data.List.Dedup

/-!
# Eviction from bounded maps

A bounded map that holds every key once forgets at most one key when it is written: the key used
longest ago, and only if the map is full and the written key is new. The tracker of responses is
such a map, and it holds no empty list of responses.
-/

namespace ChatEngine

namespace Entries

variable {κ α : Type} [DecidableEq κ]

lemma get?_eq_none_iff {key : κ} {entries : List (κ × α)} :
    get? key entries = none ↔ key ∉ entries.map Prod.fst := by
  induction entries with
  | nil => simp
  | cons e rest ih =>
    obtain ⟨k, v⟩ := e
    by_cases h : k = key
    · simp [get?, h]
    · have h' : key ≠ k := fun hk => h hk.symm
      simp [get?, h, h', ih]

lemma get?_of_not_mem {key : κ} {entries : List (κ × α)} (h : key ∉ entries.map Prod.fst) :
    get? key entries = none :=
  get?_eq_none_iff.mpr h

lemma mem_of_get? {key : κ} {value : α} {entries : List (κ × α)}
    (h : get? key entries = some value) : (key, value) ∈ entries := by
  induction entries with
  | nil => simp at h
  | cons e rest ih =>
    obtain ⟨k, v⟩ := e
    by_cases hk : k = key
    · subst hk
      have hv : v = value := by simpa [get?] using h
      simp [hv]
    · exact List.mem_cons_of_mem _ (ih (by simpa [get?, hk] using h))

lemma get?_of_mem {entry : κ × α} {entries : List (κ × α)}
    (distinct : (entries.map Prod.fst).Nodup) (h : entry ∈ entries) :
    get? entry.1 entries = some entry.2 := by
  induction entries with
  | nil => cases h
  | cons e rest ih =>
    obtain ⟨hnew, hrest⟩ := List.nodup_cons.mp distinct
    rcases List.mem_cons.mp h with rfl | hmem
    · exact if_pos rfl
    · have hkey : e.1 ≠ entry.1 := fun h => hnew (h ▸ List.mem_map_of_mem hmem)
      exact (if_neg hkey).trans (ih hrest hmem)

@[simp] lemma get?_erase (key k : κ) (entries : List (κ × α)) :
    get? k (erase key entries) = if k = key then none else get? k entries := by
  induction entries with
  | nil => simp [erase]
  | cons e rest ih =>
    obtain ⟨a, b⟩ := e
    rw [erase] at ih
    by_cases ha : a = key
    · subst ha
      by_cases hk : k = a
      · simpa [erase, hk] using ih
      · have hk' : a ≠ k := fun h => hk h.symm
        simpa [erase, get?, hk, hk'] using ih
    · by_cases hk : a = k
      · subst hk
        simp [erase, get?, ha]
      · simpa [erase, get?, ha, hk] using ih

lemma get?_append (key : κ) (xs ys : List (κ × α)) :
    get? key (xs ++ ys) = (get? key xs).or (get? key ys) := by
  induction xs with
  | nil => simp
  | cons e rest ih =>
    obtain ⟨k, v⟩ := e
    by_cases h : k = key <;> simp [get?, h, ih]

lemma keys_erase_sublist (key : κ) (entries : List (κ × α)) :
    ((erase key entries).map Prod.fst).Sublist (entries.map Prod.fst) :=
  List.filter_sublist.map _

lemma not_mem_keys_erase (key : κ) (entries : List (κ × α)) :
    key ∉ (erase key entries).map Prod.fst := by
  rw [← get?_eq_none_iff, get?_erase, if_pos rfl]

lemma erase_of_not_mem {key : κ} {entries : List (κ × α)} (h : key ∉ entries.map Prod.fst) :
    erase key entries = entries := by
  rw [erase, List.filter_eq_self]
  intro e he
  have hne : e.1 ≠ key := fun hk => h (List.mem_map.mpr ⟨e, he, hk⟩)
  simpa using hne

lemma length_erase_lt {key : κ} {entries : List (κ × α)} (h : key ∈ entries.map Prod.fst) :
    (erase key entries).length < entries.length := by
  obtain ⟨e, he, hk⟩ := List.mem_map.mp h
  rw [erase, List.length_filter_lt_length_iff_exists]
  exact ⟨e, he, by simp [hk]⟩

lemma cons_erase_perm {key : κ} {value : α} {entries : List (κ × α)}
    (hd : (entries.map Prod.fst).Nodup) (h : get? key entries = some value) :
    ((key, value) :: erase key entries).Perm entries := by
  induction entries with
  | nil => simp at h
  | cons e rest ih =>
    obtain ⟨k, v⟩ := e
    rw [List.map_cons, List.nodup_cons] at hd
    by_cases hk : k = key
    · subst hk
      have hv : v = value := by simpa [get?] using h
      have herase : erase k ((k, v) :: rest) = rest := by
        have hrest := erase_of_not_mem hd.1
        unfold erase at hrest ⊢
        rw [List.filter_cons_of_neg (by simp), hrest]
      rw [herase, hv]
    · have herase : erase key ((k, v) :: rest) = (k, v) :: erase key rest := by
        unfold erase
        rw [List.filter_cons_of_pos (by simpa using hk)]
      rw [herase]
      exact (List.Perm.swap _ _ _).trans ((ih hd.2 (by simpa [get?, hk] using h)).cons _)

lemma put_of_not_mem {key : κ} (value : α) {entries : List (κ × α)}
    (h : key ∉ entries.map Prod.fst) : put key value entries = entries ++ [(key, value)] := by
  induction entries with
  | nil => rfl
  | cons e rest ih =>
    obtain ⟨k, v⟩ := e
    rw [List.map_cons, List.mem_cons, not_or] at h
    have hk : k ≠ key := fun hk => h.1 hk.symm
    simp [put, hk, ih h.2]

lemma mem_keys_put {k key : κ} (value : α) {entries : List (κ × α)} :
    k ∈ (put key value entries).map Prod.fst ↔ k = key ∨ k ∈ entries.map Prod.fst := by
  rw [← not_iff_not, ← get?_eq_none_iff, get?_put, not_or, ← get?_eq_none_iff]
  split_ifs with hk <;> simp [hk]

lemma nodup_keys_put (key : κ) (value : α) {entries : List (κ × α)}
    (h : (entries.map Prod.fst).Nodup) : ((put key value entries).map Prod.fst).Nodup := by
  induction entries with
  | nil => exact List.nodup_singleton _
  | cons e rest ih =>
    obtain ⟨k, v⟩ := e
    rw [List.map_cons, List.nodup_cons] at h
    unfold put
    split
    · exact List.nodup_cons.mpr h
    · next hk =>
      refine List.nodup_cons.mpr ⟨fun hm => ?_, ih h.2⟩
      rcases (mem_keys_put value).mp hm with he | hm
      · exact hk he
      · exact h.1 hm

lemma nodup_keys_ofList (entries : List (κ × α)) : ((ofList entries).map Prod.fst).Nodup := by
  have hupdate : ∀ start : List (κ × α), (start.map Prod.fst).Nodup →
      ((update start entries).map Prod.fst).Nodup := by
    induction entries with
    | nil => exact fun _ h => h
    | cons e rest ih => exact fun start h => ih _ (nodup_keys_put e.1 e.2 h)
  exact hupdate [] List.nodup_nil

lemma update_of_nodup (more entries : List (κ × α))
    (h : ((entries ++ more).map Prod.fst).Nodup) : update entries more = entries ++ more := by
  induction more generalizing entries with
  | nil => simp [update]
  | cons e rest ih =>
    have hnot : e.1 ∉ entries.map Prod.fst := by
      rw [List.map_append, List.map_cons] at h
      exact fun hm => (List.nodup_append.mp h).2.2 e.1 hm e.1 (by simp) rfl
    have hput : put e.1 e.2 entries = entries ++ [e] := put_of_not_mem e.2 hnot
    have hi := ih (entries ++ [e]) (by simpa using h)
    rw [update] at hi ⊢
    rw [List.foldl_cons, hput, hi, List.append_assoc, List.singleton_append]

lemma ofList_of_nodup (entries : List (κ × α)) (h : (entries.map Prod.fst).Nodup) :
    ofList entries = entries :=
  update_of_nodup entries [] h

end Entries

namespace Lru

variable {κ α : Type} [DecidableEq κ]

/-- What every operation keeps: no key twice, and no more keys than fit. -/
structure Bounded (m : Lru κ α) : Prop where
  distinct : (m.entries.map Prod.fst).Nodup
  fits : m.entries.length ≤ m.capacity
  positive : 0 < m.capacity

/-- The key that a full map forgets to hold a new one. -/
def displaced? (m : Lru κ α) (key : κ) : Option κ :=
  if m.contains key ∨ m.size < m.capacity then none else m.entries.getLast?.map Prod.fst

lemma contains_iff {m : Lru κ α} {key : κ} :
    m.contains key = true ↔ key ∈ m.entries.map Prod.fst := by
  rw [contains, peek?, Option.isSome_iff_ne_none, ne_eq, Entries.get?_eq_none_iff, not_not]

@[simp] lemma get_fst (m : Lru κ α) (key : κ) : (m.get key).1 = m.peek? key := by
  unfold get
  split <;> simp_all

@[simp] lemma get_capacity (m : Lru κ α) (key : κ) : (m.get key).2.capacity = m.capacity := by
  unfold get
  split <;> rfl

lemma get_entries {m : Lru κ α} {key : κ} {value : α} (h : m.peek? key = some value) :
    (m.get key).2.entries = (key, value) :: Entries.erase key m.entries := by
  simp [get, h]

lemma get_of_peek?_none {m : Lru κ α} {key : κ} (h : m.peek? key = none) : (m.get key).2 = m := by
  simp [get, h]

@[simp] lemma peek?_get (m : Lru κ α) (key k : κ) : (m.get key).2.peek? k = m.peek? k := by
  cases h : m.peek? key with
  | none => rw [get_of_peek?_none h]
  | some value =>
    rw [peek?, get_entries h]
    by_cases hk : key = k
    · subst hk
      simp [Entries.get?, h]
    · have hk' : k ≠ key := fun h => hk h.symm
      simp [Entries.get?, hk, hk', peek?]

lemma Bounded.get {m : Lru κ α} (h : m.Bounded) (key : κ) : (m.get key).2.Bounded := by
  cases hp : m.peek? key with
  | none => rwa [get_of_peek?_none hp]
  | some value =>
    have hmem : key ∈ m.entries.map Prod.fst := by
      rw [← contains_iff, contains, hp, Option.isSome_some]
    refine ⟨?_, ?_, by simpa using h.positive⟩
    · rw [get_entries hp, List.map_cons, List.nodup_cons]
      exact ⟨Entries.not_mem_keys_erase key _,
        h.distinct.sublist (Entries.keys_erase_sublist key _)⟩
    · have hlt := Entries.length_erase_lt hmem
      have hfits := h.fits
      rw [get_entries hp, List.length_cons, get_capacity]
      omega

lemma Bounded.erase {m : Lru κ α} (h : m.Bounded) (key : κ) : (m.erase key).Bounded where
  distinct := h.distinct.sublist (Entries.keys_erase_sublist key _)
  fits := Nat.le_trans (List.length_filter_le _ _) h.fits
  positive := h.positive

@[simp] lemma peek?_erase (m : Lru κ α) (key k : κ) :
    (m.erase key).peek? k = if k = key then none else m.peek? k := by
  simp [Lru.erase, peek?]

lemma put_entries_of_room {m : Lru κ α} (h : m.Bounded) {key : κ} (value : α)
    (hroom : m.contains key ∨ m.size < m.capacity) :
    (m.put key value).entries = (key, value) :: Entries.erase key m.entries := by
  have hlen : ((key, value) :: Entries.erase key m.entries).length ≤ m.capacity := by
    rw [List.length_cons]
    rcases hroom with hc | hs
    · have hlt := Entries.length_erase_lt (contains_iff.mp hc)
      have hfits := h.fits
      omega
    · have hle : (Entries.erase key m.entries).length ≤ m.entries.length :=
        List.length_filter_le _ _
      rw [size] at hs
      omega
  exact List.take_of_length_le hlen

lemma put_entries_of_full {m : Lru κ α} (h : m.Bounded) {key : κ} (value : α)
    (hnew : ¬m.contains key) (hfull : ¬m.size < m.capacity) :
    (m.put key value).entries = (key, value) :: m.entries.dropLast := by
  have hsize : m.entries.length = m.capacity := by
    have hfits := h.fits
    rw [size] at hfull
    omega
  have hnot : key ∉ m.entries.map Prod.fst := fun hm => hnew (contains_iff.mpr hm)
  have hpos := h.positive
  obtain ⟨n, hn⟩ : ∃ n, m.capacity = n + 1 := ⟨m.capacity - 1, by omega⟩
  rw [put, Entries.erase_of_not_mem hnot]
  simp only [hn, List.take_succ_cons, List.dropLast_eq_take, hsize, Nat.add_sub_cancel]

lemma Bounded.put {m : Lru κ α} (h : m.Bounded) (key : κ) (value : α) :
    (m.put key value).Bounded where
  distinct := by
    have hd : (((key, value) :: Entries.erase key m.entries).map Prod.fst).Nodup := by
      rw [List.map_cons, List.nodup_cons]
      exact ⟨Entries.not_mem_keys_erase key _,
        h.distinct.sublist (Entries.keys_erase_sublist key _)⟩
    exact hd.sublist ((List.take_sublist _ _).map _)
  fits := List.length_take_le _ _
  positive := h.positive

lemma get?_dropLast {entries : List (κ × α)} (hd : (entries.map Prod.fst).Nodup) (k : κ) :
    Entries.get? k entries.dropLast =
      if entries.getLast?.map Prod.fst = some k then none else Entries.get? k entries := by
  rcases List.eq_nil_or_concat' entries with rfl | ⟨front, last, rfl⟩
  · simp
  · rw [List.map_append, List.nodup_append] at hd
    have hlast : last.1 ∉ front.map Prod.fst := fun hm => hd.2.2 _ hm _ (by simp) rfl
    rw [List.dropLast_concat, List.getLast?_concat, Option.map_some]
    by_cases hk : last.1 = k
    · subst hk
      rw [if_pos rfl, Entries.get?_of_not_mem hlast]
    · simp [hk, Entries.get?, Entries.get?_append]

/-- Writing a key changes what is found for that key and for the displaced one. -/
theorem peek?_put {m : Lru κ α} (h : m.Bounded) (key k : κ) (value : α) :
    (m.put key value).peek? k =
      if k = key then some value else if m.displaced? key = some k then none else m.peek? k := by
  by_cases hroom : m.contains key ∨ m.size < m.capacity
  · rw [peek?, put_entries_of_room h value hroom, displaced?, if_pos hroom]
    by_cases hk : key = k
    · simp [Entries.get?, hk]
    · have hk' : k ≠ key := fun h => hk h.symm
      simp [Entries.get?, hk, hk', peek?]
  · obtain ⟨hnew, hfull⟩ := not_or.mp hroom
    rw [peek?, put_entries_of_full h value hnew hfull, displaced?, if_neg hroom]
    by_cases hk : key = k
    · simp [Entries.get?, hk]
    · have hk' : k ≠ key := fun h => hk h.symm
      simp only [Entries.get?, hk, hk', if_false]
      exact get?_dropLast h.distinct k

lemma displaced?_ne {m : Lru κ α} {key k : κ} (h : m.displaced? key = some k) : k ≠ key := by
  intro hk
  subst hk
  unfold displaced? at h
  split at h
  · cases h
  · next hroom =>
    apply hroom
    left
    rw [contains_iff]
    obtain ⟨e, he, rfl⟩ := Option.map_eq_some_iff.mp h
    exact List.mem_map.mpr ⟨e, List.mem_of_getLast? he, rfl⟩

end Lru

namespace ResponseTracker

/-- What every operation keeps: a bounded map without empty lists of responses. -/
structure Sound (t : ResponseTracker) : Prop where
  bounded : t.cache.Bounded
  nonempty : ∀ origin, t.cache.peek? origin ≠ some []

/-- The origin that is forgotten to record the responses of another one. -/
def displaced? (t : ResponseTracker) (origin : MessageId) (responses : List Response) :
    Option MessageId :=
  if responses.isEmpty then none else t.cache.displaced? origin

theorem create?_sound {capacity : Int} {t : ResponseTracker} (h : create? capacity = some t) :
    t.Sound := by
  unfold create? at h
  split at h
  · cases h
  · next hc =>
    cases h
    exact ⟨⟨List.nodup_nil, Nat.zero_le _, by simp only; omega⟩, fun _ h => by cases h⟩

lemma create?_records {capacity : Int} {t : ResponseTracker} (h : create? capacity = some t)
    (origin : MessageId) : t.records origin = [] := by
  unfold create? at h
  split at h
  · cases h
  · cases h
    rfl

@[simp] lemma get_fst (t : ResponseTracker) (origin : MessageId) :
    (t.get origin).1 = t.cache.peek? origin :=
  Lru.get_fst t.cache origin

lemma get_of_peek?_none {t : ResponseTracker} {origin : MessageId}
    (h : t.cache.peek? origin = none) : (t.get origin).2 = t :=
  congrArg ResponseTracker.mk (Lru.get_of_peek?_none h)

@[simp] lemma peek?_get (t : ResponseTracker) (origin k : MessageId) :
    (t.get origin).2.cache.peek? k = t.cache.peek? k :=
  Lru.peek?_get t.cache origin k

@[simp] lemma records_get (t : ResponseTracker) (origin k : MessageId) :
    (t.get origin).2.records k = t.records k := by
  simp [records]

lemma Sound.get {t : ResponseTracker} (h : t.Sound) (origin : MessageId) :
    (t.get origin).2.Sound :=
  ⟨h.bounded.get origin, fun k => by simpa using h.nonempty k⟩

/-- What recording responses changes: the entry of the origin, which goes if there are no
responses, and the entry of the displaced origin. -/
theorem peek?_put {t : ResponseTracker} (h : t.Sound) (origin k : MessageId)
    (responses : List Response) :
    (t.put origin responses).cache.peek? k =
      if k = origin then (if responses.isEmpty then none else some responses)
      else if t.displaced? origin responses = some k then none else t.cache.peek? k := by
  by_cases he : responses.isEmpty
  · simp [put, remove, displaced?, he]
  · simp only [put, displaced?, he]
    exact Lru.peek?_put h.bounded origin k responses

lemma Sound.put {t : ResponseTracker} (h : t.Sound) (origin : MessageId)
    (responses : List Response) : (t.put origin responses).Sound := by
  refine ⟨?_, ?_⟩
  · unfold ResponseTracker.put
    split
    · exact h.bounded.erase origin
    · exact h.bounded.put origin responses
  · intro k
    rw [peek?_put h]
    have hk := h.nonempty k
    split_ifs with h₁ h₂ h₃
    · simp
    · simpa using h₂
    · simp
    · exact hk

theorem records_put {t : ResponseTracker} (h : t.Sound) (origin k : MessageId)
    (responses : List Response) :
    (t.put origin responses).records k =
      if k = origin then responses
      else if t.displaced? origin responses = some k then [] else t.records k := by
  rw [records, peek?_put h, records]
  split_ifs with h₁ h₂ <;> simp_all

lemma displaced?_ne {t : ResponseTracker} {origin k : MessageId} {responses : List Response}
    (h : t.displaced? origin responses = some k) : k ≠ origin := by
  unfold displaced? at h
  split at h
  · cases h
  · exact Lru.displaced?_ne h

/-- An origin has an entry exactly when responses are recorded for it. -/
theorem contains_iff {t : ResponseTracker} (h : t.Sound) (origin : MessageId) :
    t.contains origin = true ↔ t.records origin ≠ [] := by
  have hn := h.nonempty origin
  unfold contains Lru.contains records
  cases hp : t.cache.peek? origin with
  | none => simp
  | some responses =>
    rw [hp] at hn
    simpa using hn

end ResponseTracker

end ChatEngine
