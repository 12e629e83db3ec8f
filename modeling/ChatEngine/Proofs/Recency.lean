import ChatEngine.Proofs.LruEviction
import Mathlib.Data.List.Perm.Basic

/-!
# Recency

The keys that a bounded map holds are the ones used last. Uses are listed with the latest first;
`recency` has every key once, at the place of its latest use. A map of some capacity keeps so many
keys of it (`Lru.Recent`). A key is among them exactly if it was used, and fewer other keys than fit
were used since.
-/

namespace ChatEngine

section
variable {κ : Type} [DecidableEq κ]

/-- The keys used, each once, from the latest used to the one used longest ago. -/
def recency : List κ → List κ
  | [] => []
  | k :: uses => k :: (recency uses).filter (· ≠ k)

/-- The other keys used since the latest use of a key, each as often as it was used. -/
def usedSince (k : κ) (uses : List κ) : List κ := uses.takeWhile (· ≠ k)

lemma mem_recency {k : κ} {uses : List κ} : k ∈ recency uses ↔ k ∈ uses := by
  induction uses with
  | nil => rfl
  | cons u uses ih =>
    rw [recency, List.mem_cons, List.mem_filter, ih, List.mem_cons]
    by_cases hk : k = u <;> simp [hk]

lemma nodup_recency (uses : List κ) : (recency uses).Nodup := by
  induction uses with
  | nil => exact List.nodup_nil
  | cons u uses ih =>
    refine List.nodup_cons.mpr ⟨fun hu => ?_, ih.filter _⟩
    simpa using (List.mem_filter.mp hu).2

lemma length_recency (uses : List κ) : (recency uses).length = uses.dedup.length := by
  apply List.Perm.length_eq
  rw [List.perm_ext_iff_of_nodup (nodup_recency uses) (List.nodup_dedup uses)]
  intro k
  rw [mem_recency, List.mem_dedup]

/-- The keys in front of a key are those used since. -/
lemma takeWhile_recency (k : κ) (uses : List κ) :
    (recency uses).takeWhile (· ≠ k) = recency (usedSince k uses) := by
  induction uses with
  | nil => rfl
  | cons u uses ih =>
    unfold usedSince at ih ⊢
    by_cases hu : u = k
    · simp [recency, hu]
    · have hpass : decide (u ≠ k) = true := by simpa using hu
      have hstop : (fun a : κ => !decide (a ≠ u) || decide (a ≠ k)) = fun a => decide (a ≠ k) := by
        funext a
        by_cases ha : a = u
        · subst ha
          simp [hu]
        · simp [ha]
      simp only [recency, List.takeWhile_cons, hpass, if_true, List.takeWhile_filter, hstop, ih]

lemma mem_take_iff {k : κ} {keys : List κ} {n : Nat} :
    k ∈ keys.take n ↔ k ∈ keys ∧ (keys.takeWhile (· ≠ k)).length < n := by
  induction keys generalizing n with
  | nil => simp
  | cons u keys ih =>
    cases n with
    | zero => simp
    | succ n =>
      rw [List.take_succ_cons, List.mem_cons, List.mem_cons, ih]
      by_cases hu : u = k
      · simp [hu]
      · have hk : ¬k = u := fun h => hu h.symm
        simp [hu, hk]

/-- A key is among the `n` used last exactly if it was used, and fewer than `n` other keys were used
since. -/
theorem mem_take_recency_iff {k : κ} {uses : List κ} {n : Nat} :
    k ∈ (recency uses).take n ↔ k ∈ uses ∧ (usedSince k uses).dedup.length < n := by
  rw [mem_take_iff, mem_recency, takeWhile_recency, length_recency]

/-- What is left of the first `n + 1` keys without one of them are the first `n` of the others. -/
lemma take_filter_take {keys : List κ} (distinct : keys.Nodup) (k : κ) (n : Nat) :
    ((keys.take (n + 1)).filter (· ≠ k)).take n = (keys.filter (· ≠ k)).take n := by
  induction keys generalizing n with
  | nil => simp
  | cons u keys ih =>
    obtain ⟨hu, hkeys⟩ := List.nodup_cons.mp distinct
    rw [List.take_succ_cons]
    by_cases huk : u = k
    · have hkeep : ∀ a ∈ keys, a ≠ k := fun a ha h => hu (huk ▸ h ▸ ha)
      have hall : keys.filter (· ≠ k) = keys := by simpa [List.filter_eq_self] using hkeep
      have hfront : (keys.take n).filter (· ≠ k) = keys.take n := by
        rw [List.filter_eq_self]
        intro a ha
        simpa using hkeep a (List.mem_of_mem_take ha)
      rw [List.filter_cons_of_neg (by simpa using huk), List.filter_cons_of_neg (by simpa using huk),
        hall, hfront, List.take_take, Nat.min_self]
    · cases n with
      | zero => simp
      | succ n => simpa [huk] using ih hkeys n

end

namespace Lru

variable {κ α : Type} [DecidableEq κ]

/-- Whether a map holds the keys used last, in order of use. -/
def Recent (m : Lru κ α) (uses : List κ) : Prop :=
  m.entries.map Prod.fst = (recency uses).take m.capacity

lemma keys_erase (key : κ) (entries : List (κ × α)) :
    (Entries.erase key entries).map Prod.fst = (entries.map Prod.fst).filter (· ≠ key) := by
  rw [Entries.erase, List.filter_map]
  rfl

/-- The keys after a use are those used last. -/
lemma take_recency_cons (key : κ) (uses : List κ) (n : Nat) :
    (key :: ((recency uses).take n).filter (· ≠ key)).take n = (recency (key :: uses)).take n := by
  cases n with
  | zero => rfl
  | succ n =>
    rw [recency, List.take_succ_cons, List.take_succ_cons,
      take_filter_take (nodup_recency uses)]

lemma Recent.contains_iff {m : Lru κ α} {uses : List κ} (h : m.Recent uses) (key : κ) :
    m.contains key = true ↔ key ∈ uses ∧ (usedSince key uses).dedup.length < m.capacity := by
  rw [Lru.contains_iff, h, mem_take_recency_iff]

lemma Recent.put {m : Lru κ α} {uses : List κ} (h : m.Recent uses) (key : κ) (value : α) :
    (m.put key value).Recent (key :: uses) := by
  have hkeys := take_recency_cons key uses m.capacity
  unfold Recent Lru.put
  rw [List.map_take, List.map_cons, keys_erase, h]
  exact hkeys

lemma Recent.get {m : Lru κ α} {uses : List κ} (h : m.Recent uses) {key : κ} {value : α}
    (found : m.peek? key = some value) : (m.get key).2.Recent (key :: uses) := by
  have hmem : key ∈ m.entries.map Prod.fst := by
    rw [← Lru.contains_iff, contains, found, Option.isSome_some]
  have hkeys := take_recency_cons key uses m.capacity
  unfold Recent
  rw [get_entries found, get_capacity, List.map_cons, keys_erase, h, ← hkeys]
  -- The key was held, so no other key has to make room for it.
  rw [h] at hmem
  have hfewer : (((recency uses).take m.capacity).filter (· ≠ key)).length <
      ((recency uses).take m.capacity).length := by
    rw [List.length_filter_lt_length_iff_exists]
    exact ⟨key, hmem, by simp⟩
  have hfits := List.length_take_le m.capacity (recency uses)
  refine (List.take_of_length_le ?_).symm
  rw [List.length_cons]
  omega

end Lru

end ChatEngine
