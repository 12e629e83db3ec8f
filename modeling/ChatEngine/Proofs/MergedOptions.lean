import ChatEngine.Answer
import ChatEngine.Proofs.LruEviction
import Mathlib.Data.List.Induction
import Mathlib.Data.List.OfFn
import Mathlib.Logic.Equiv.Defs

/-!
# Merged options

Of all settings of a key the last one counts when options are merged (`AnswerOption.get?_merge`),
and no other key is set. So the order of options matters within a key only: they may be permuted as
long as options that disagree on a key keep their order, and merged in parts.
-/

namespace ChatEngine

/-! ### Maps written one after the other -/

namespace Entries

variable {κ α : Type} [DecidableEq κ]

lemma put_put (key : κ) (value earlier : α) (entries : List (κ × α)) :
    put key value (put key earlier entries) = put key value entries := by
  induction entries with
  | nil => simp [put]
  | cons e rest ih =>
    obtain ⟨k, v⟩ := e
    by_cases hk : k = key <;> simp [put, hk, ih]

/-- A key that is there keeps its place, so other keys may be written before or after. -/
lemma put_comm {key k : κ} (hne : k ≠ key) (value v : α) {entries : List (κ × α)}
    (present : key ∈ entries.map Prod.fst) :
    put key value (put k v entries) = put k v (put key value entries) := by
  induction entries with
  | nil => cases present
  | cons e rest ih =>
    obtain ⟨a, b⟩ := e
    by_cases hkey : a = key
    · subst hkey
      simp [put, hne.symm]
    · have hrest : key ∈ rest.map Prod.fst := by
        rcases List.mem_cons.mp present with h | h
        · exact absurd h.symm hkey
        · exact h
      by_cases hk : a = k
      · subst hk
        simp [put, hkey]
      · simp [put, hkey, hk, ih hrest]

lemma put_update {key : κ} (value : α) {more entries : List (κ × α)}
    (absent : key ∉ more.map Prod.fst) (present : key ∈ entries.map Prod.fst) :
    put key value (update entries more) = update (put key value entries) more := by
  induction more generalizing entries with
  | nil => rfl
  | cons e more ih =>
    rw [List.map_cons, List.mem_cons, not_or] at absent
    have hpresent : key ∈ (put e.1 e.2 entries).map Prod.fst := (mem_keys_put e.2).mpr (.inr present)
    have hrest := ih absent.2 hpresent
    rw [put_comm (Ne.symm absent.1) value e.2 present] at hrest
    exact hrest

/-- A key written into a map is written wherever the map is written. -/
lemma update_put (key : κ) (value : α) {more : List (κ × α)} (distinct : (more.map Prod.fst).Nodup)
    (entries : List (κ × α)) :
    update entries (put key value more) = put key value (update entries more) := by
  induction more generalizing entries with
  | nil => rfl
  | cons e more ih =>
    obtain ⟨k, v⟩ := e
    obtain ⟨absent, hmore⟩ := List.nodup_cons.mp distinct
    by_cases hk : k = key
    · subst hk
      have hpresent : k ∈ (put k v entries).map Prod.fst := (mem_keys_put v).mpr (.inl rfl)
      have hput : put k value ((k, v) :: more) = (k, value) :: more := if_pos rfl
      calc update entries (put k value ((k, v) :: more))
          = update (put k value entries) more := by rw [hput]; rfl
        _ = update (put k value (put k v entries)) more := by rw [put_put]
        _ = put k value (update (put k v entries) more) := (put_update value absent hpresent).symm
    · have hput : put key value ((k, v) :: more) = (k, v) :: put key value more := if_neg hk
      rw [hput]
      exact ih hmore (put k v entries)

/-- Maps may be written one after the other, or put together first. -/
lemma update_update (more : List (κ × α)) {middle : List (κ × α)}
    (distinct : (middle.map Prod.fst).Nodup) (entries : List (κ × α)) :
    update entries (update middle more) = update (update entries middle) more := by
  induction more generalizing middle with
  | nil => rfl
  | cons e more ih =>
    have hrest := ih (nodup_keys_put e.1 e.2 distinct)
    rw [update_put e.1 e.2 distinct] at hrest
    exact hrest

lemma nodup_keys_update (more : List (κ × α)) {entries : List (κ × α)}
    (distinct : (entries.map Prod.fst).Nodup) : ((update entries more).map Prod.fst).Nodup := by
  induction more generalizing entries with
  | nil => exact distinct
  | cons e more ih => exact ih (nodup_keys_put e.1 e.2 distinct)

/-- Two maps in which the same is found have the same entries. -/
lemma perm_of_get?_eq {entries more : List (κ × α)} (hentries : (entries.map Prod.fst).Nodup)
    (hmore : (more.map Prod.fst).Nodup) (same : ∀ key, get? key entries = get? key more) :
    entries.Perm more := by
  rw [List.perm_ext_iff_of_nodup hentries.of_map hmore.of_map]
  intro e
  constructor
  · intro he
    exact mem_of_get? ((same e.1).symm.trans (get?_of_mem hentries he))
  · intro he
    exact mem_of_get? ((same e.1).trans (get?_of_mem hmore he))

lemma get?_filter_keys (keep : κ → Bool) (key : κ) (entries : List (κ × α)) :
    get? key (entries.filter fun e => keep e.1) = if keep key then get? key entries else none := by
  induction entries with
  | nil => simp
  | cons e rest ih =>
    obtain ⟨k, v⟩ := e
    by_cases hk : k = key
    · subst hk
      cases hkeep : keep k <;> simp [get?, hkeep, ih]
    · cases hkeep : keep k <;> simp [get?, hk, hkeep, ih]

end Entries

/-! ### Settings -/

namespace AnswerOption

/-- What options set for a key, if they do: the last of the settings counts. -/
def last? (key : String) (options : List AnswerOption) : Option String :=
  (options.flatten.filter fun e => e.1 = key).getLast?.map Prod.snd

lemma last?_nil (key : String) : last? key [] = none := rfl

lemma last?_append (key : String) (options more : List AnswerOption) :
    last? key (options ++ more) = (last? key more).or (last? key options) := by
  unfold last?
  rw [List.flatten_append, List.filter_append, List.getLast?_append, Option.map_or]

/-- Writing settings one after the other leaves the last one of each key. -/
lemma get?_update (key : String) (settings start : AnswerOption) :
    Entries.get? key (Entries.update start settings) =
      (last? key [settings]).or (Entries.get? key start) := by
  unfold last? Entries.update
  rw [List.flatten_singleton]
  induction settings using List.reverseRecOn with
  | nil => rfl
  | append_singleton settings e ih =>
    rw [List.foldl_append, List.foldl_cons, List.foldl_nil, Entries.get?_put, ih,
      List.filter_append, List.getLast?_append]
    by_cases hkey : key = e.1
    · simp [hkey]
    · have hkey' : e.1 ≠ key := fun h => hkey h.symm
      simp [hkey, hkey']

/-- Merged options have the last setting of each key. -/
theorem get?_merge (key : String) (options : List AnswerOption) :
    Entries.get? key (merge options) = last? key options := by
  unfold merge
  induction options using List.reverseRecOn with
  | nil => rfl
  | append_singleton options settings ih =>
    rw [List.foldl_append, List.foldl_cons, List.foldl_nil, get?_update, ih, last?_append]

/-- What a single option, which is a map, sets for a key. -/
def setting? (key : String) (option : AnswerOption) : Option String :=
  Entries.get? key (Entries.ofList option)

/-- Whether two options set some key to different values. -/
def Disagree (a b : AnswerOption) : Prop :=
  ∃ key value other, setting? key a = some value ∧ setting? key b = some other ∧ value ≠ other

lemma setting?_eq (key : String) (option : AnswerOption) :
    setting? key option = last? key [option] := by
  rw [setting?, Entries.ofList, get?_update, Entries.get?_nil, Option.or_none]

lemma setting?_eq_none_iff {key : String} {option : AnswerOption} :
    setting? key option = none ↔ key ∉ option.map Prod.fst := by
  rw [setting?_eq, last?, List.flatten_singleton, Option.map_eq_none_iff,
    List.getLast?_eq_none_iff, List.filter_eq_nil_iff]
  constructor
  · intro h hmem
    obtain ⟨e, he, hkey⟩ := List.mem_map.mp hmem
    exact h e he (decide_eq_true hkey)
  · intro h e he hkey
    exact h (List.mem_map.mpr ⟨e, he, of_decide_eq_true hkey⟩)

lemma disagree_iff {a b : AnswerOption} :
    Disagree a b ↔ ∃ key ∈ a.map Prod.fst, key ∈ b.map Prod.fst ∧ setting? key a ≠ setting? key b := by
  constructor
  · rintro ⟨key, value, other, ha, hb, hne⟩
    have hmem {option : AnswerOption} {v : String} (h : setting? key option = some v) :
        key ∈ option.map Prod.fst := by
      by_contra hnot
      rw [setting?_eq_none_iff.mpr hnot] at h
      cases h
    exact ⟨key, hmem ha, hmem hb, by rwa [ha, hb, ne_eq, Option.some_inj]⟩
  · rintro ⟨key, ha, hb, hne⟩
    obtain ⟨value, hvalue⟩ := Option.ne_none_iff_exists'.mp (setting?_eq_none_iff.not_left.mpr ha)
    obtain ⟨other, hother⟩ := Option.ne_none_iff_exists'.mp (setting?_eq_none_iff.not_left.mpr hb)
    rw [hvalue, hother, ne_eq, Option.some_inj] at hne
    exact ⟨key, value, other, hvalue, hother, hne⟩

instance (a b : AnswerOption) : Decidable (Disagree a b) := decidable_of_iff' _ disagree_iff

/-- The last of the settings is that of the last option with a setting. -/
lemma last?_eq_findSome? (key : String) (options : List AnswerOption) :
    last? key options = options.reverse.findSome? (setting? key) := by
  induction options using List.reverseRecOn with
  | nil => rfl
  | append_singleton options option ih =>
    rw [last?_append, ih, List.reverse_append, List.reverse_singleton, List.singleton_append,
      List.findSome?_cons, setting?_eq]
    cases last? key [option] <;> rfl

lemma merge_concat (options : List AnswerOption) (option : AnswerOption) :
    merge (options ++ [option]) = Entries.update (merge options) option := by
  rw [merge, List.foldl_append]
  rfl

lemma nodup_keys_merge (options : List AnswerOption) : ((merge options).map Prod.fst).Nodup := by
  induction options using List.reverseRecOn with
  | nil => exact List.nodup_nil
  | append_singleton options option ih =>
    rw [merge_concat]
    exact Entries.nodup_keys_update option ih

lemma mem_keys_merge {key : String} {options : List AnswerOption} :
    key ∈ (merge options).map Prod.fst ↔ ∃ option ∈ options, key ∈ option.map Prod.fst := by
  rw [← not_iff_not, ← Entries.get?_eq_none_iff, get?_merge, last?_eq_findSome?,
    List.findSome?_eq_none_iff]
  simp only [List.mem_reverse, setting?_eq_none_iff, not_exists, not_and]

lemma merge_pair (options more : List AnswerOption) :
    merge [merge options, merge more] = Entries.update (merge options) (merge more) :=
  congrArg (Entries.update · (merge more))
    (Entries.ofList_of_nodup (merge options) (nodup_keys_merge options))

/-- Options are merged in parts. -/
lemma merge_append (options more : List AnswerOption) :
    merge (options ++ more) = merge [merge options, merge more] := by
  rw [merge_pair]
  induction more using List.reverseRecOn with
  | nil => rw [List.append_nil]; rfl
  | append_singleton more option ih =>
    rw [← List.append_assoc, merge_concat, merge_concat, ih,
      Entries.update_update option (nodup_keys_merge more)]

/-! ### Options in another order -/

/-- The last option with a setting, by its place. -/
lemma exists_last_setting {key value : String} {n : Nat} {option : Fin n → AnswerOption}
    (h : (List.ofFn option).reverse.findSome? (setting? key) = some value) :
    ∃ i, setting? key (option i) = some value ∧ ∀ j, i < j → setting? key (option j) = none := by
  induction n with
  | zero => cases h
  | succ n ih =>
    rw [List.ofFn_succ', List.concat_eq_append, List.reverse_append, List.reverse_singleton,
      List.singleton_append, List.findSome?_cons] at h
    cases hlast : setting? key (option (Fin.last n)) with
    | some last =>
      rw [hlast] at h
      exact ⟨Fin.last n, hlast.trans h, fun j hj => absurd hj (Fin.le_last j).not_gt⟩
    | none =>
      rw [hlast] at h
      obtain ⟨i, hi, hlater⟩ := ih h
      refine ⟨i.castSucc, hi, fun j hj => ?_⟩
      cases j using Fin.lastCases with
      | last => exact hlast
      | cast j => exact hlater j (Fin.castSucc_lt_castSucc_iff.mp hj)

/-- Options that keep their order where they disagree leave the last setting of a key as it is: that
of a later option with another value would have to come before it. -/
lemma findSome?_kept {n : Nat} (option : Fin n → AnswerOption) {σ : Equiv.Perm (Fin n)}
    (kept : ∀ i j, i < j → Disagree (option (σ i)) (option (σ j)) → σ i < σ j) (key : String) :
    (List.ofFn fun i => option (σ i)).reverse.findSome? (setting? key) =
      (List.ofFn option).reverse.findSome? (setting? key) := by
  cases hvalue : (List.ofFn option).reverse.findSome? (setting? key) with
  | none =>
    rw [List.findSome?_eq_none_iff] at hvalue ⊢
    intro o ho
    obtain ⟨i, rfl⟩ := (List.mem_ofFn' _ _).mp (List.mem_reverse.mp ho)
    exact hvalue _ (List.mem_reverse.mpr ((List.mem_ofFn' _ _).mpr ⟨σ i, rfl⟩))
  | some value =>
    obtain ⟨i, hi, hlater⟩ := exists_last_setting hvalue
    obtain ⟨place, rfl⟩ := σ.surjective i
    cases hother : (List.ofFn fun i => option (σ i)).reverse.findSome? (setting? key) with
    | none =>
      have hnone := List.findSome?_eq_none_iff.mp hother (option (σ place))
        (List.mem_reverse.mpr ((List.mem_ofFn' _ _).mpr ⟨place, rfl⟩))
      rw [hi] at hnone
      cases hnone
    | some other =>
      obtain ⟨j, hj, hafter⟩ := exists_last_setting hother
      by_contra hne
      have hvalues : value ≠ other := fun h => hne (congrArg some h.symm)
      have hbefore : σ j < σ place := by
        rcases lt_trichotomy (σ j) (σ place) with h | h | h
        · exact h
        · rw [h, hi] at hj
          exact absurd (Option.some.inj hj) hvalues
        · rw [hlater _ h] at hj
          cases hj
      have hplaces : place < j := by
        rcases lt_trichotomy place j with h | rfl | h
        · exact h
        · exact absurd hbefore (lt_irrefl _)
        · rw [hafter _ h] at hi
          cases hi
      exact absurd (kept place j hplaces ⟨key, value, other, hi, hj, hvalues⟩) hbefore.not_gt

end AnswerOption

namespace ReplyOptions
open AnswerOption

/-- Whether two resolutions are the same, up to the order of the settings without a meaning of
their own. -/
structure Same (a b : ReplyOptions) : Prop where
  threaded : a.threaded = b.threaded
  existingThread : a.existingThread = b.existingThread
  broadcast : a.broadcast = b.broadcast
  ephemeralTo : a.ephemeralTo = b.ephemeralTo
  extra : a.extra.Perm b.extra

lemma same_of_get?_eq {settings other : AnswerOption}
    (hsettings : (settings.map Prod.fst).Nodup) (hother : (other.map Prod.fst).Nodup)
    (same : ∀ key, Entries.get? key settings = Entries.get? key other) :
    (ofSettings settings).Same (ofSettings other) where
  threaded := by rw [ofSettings, ofSettings, same]
  existingThread := by rw [ofSettings, ofSettings, same threadKey]
  broadcast := by rw [ofSettings, ofSettings, same broadcastKey]
  ephemeralTo := by rw [ofSettings, ofSettings, same ephemeralKey]
  extra := (Entries.perm_of_get?_eq hsettings hother same).filter _

/-- The settings that are passed on are those of all keys without a meaning of their own. -/
lemma get?_extra (key : String) (options : List AnswerOption) :
    Entries.get? key (resolve options).extra =
      if key ∈ knownKeys then none else last? key options := by
  have hextra := Entries.get?_filter_keys (fun k => !knownKeys.contains k) key (merge options)
  rw [get?_merge] at hextra
  rw [resolve, ofSettings, hextra]
  by_cases hkey : key ∈ knownKeys <;> simp [hkey]

end ReplyOptions

open AnswerOption in
/-- The order of options matters within a key only. Merged, they set each key to the value of the
last option that sets it, and no other key; they are merged in parts as well as at once, and come to
the same in any order that leaves options which disagree on a key as they are. Settings of keys
without a meaning of their own are passed on, and no others. -/
theorem option_order_matters_within_keys (options : List AnswerOption) :
    ((merge options).map Prod.fst).Nodup ∧
    (∀ key, Entries.get? key (merge options) = options.reverse.findSome? (setting? key)) ∧
    (∀ key, key ∈ (merge options).map Prod.fst ↔ ∃ o ∈ options, key ∈ o.map Prod.fst) ∧
    (∀ more, merge (options ++ more) = merge [merge options, merge more]) ∧
    (∀ σ : Equiv.Perm (Fin options.length),
      (∀ i j, i < j → Disagree options[σ i] options[σ j] → σ i < σ j) →
      let permuted := List.ofFn fun i => options[σ i]
      (merge permuted).Perm (merge options) ∧
        (ReplyOptions.resolve permuted).Same (ReplyOptions.resolve options)) ∧
    ∀ key, Entries.get? key (ReplyOptions.resolve options).extra =
      if key ∈ knownKeys then none else options.reverse.findSome? (setting? key) := by
  refine ⟨nodup_keys_merge options, fun key => ?_, fun key => mem_keys_merge, merge_append options,
    fun σ kept => ?_, fun key => ?_⟩
  · rw [get?_merge, last?_eq_findSome?]
  · have hsame (key : String) :
        Entries.get? key (merge (List.ofFn fun i => options[σ i])) =
          Entries.get? key (merge options) := by
      have hself : (List.ofFn fun i : Fin options.length => options[i]) = options :=
        List.ofFn_getElem
      have hkept := findSome?_kept (fun i => options[i]) kept key
      rw [hself] at hkept
      rw [get?_merge, get?_merge, last?_eq_findSome?, last?_eq_findSome?, hkept]
    have hpermuted := nodup_keys_merge (List.ofFn fun i => options[σ i])
    have hoptions := nodup_keys_merge options
    exact ⟨Entries.perm_of_get?_eq hpermuted hoptions hsame,
      ReplyOptions.same_of_get?_eq hpermuted hoptions hsame⟩
  · rw [ReplyOptions.get?_extra, last?_eq_findSome?]

/-- An option that shares no key with another may come after it: the broadcast is still turned off
by the option that comes last. -/
theorem whisper_may_come_first :
    let options := [AnswerOption.inThreadWithBroadcast, AnswerOption.ephemeral "U",
      AnswerOption.setting AnswerOption.broadcastKey "no"]
    let σ : Equiv.Perm (Fin options.length) := Equiv.swap 0 1
    (∀ i j, i < j → AnswerOption.Disagree options[σ i] options[σ j] → σ i < σ j) ∧
      (ReplyOptions.resolve [AnswerOption.ephemeral "U", AnswerOption.inThreadWithBroadcast,
        AnswerOption.setting AnswerOption.broadcastKey "no"]).Same
        { threaded := some true, broadcast := some false, ephemeralTo := some "U" } := by
  intro options σ
  have kept : ∀ i j, i < j → AnswerOption.Disagree options[σ i] options[σ j] → σ i < σ j := by
    decide
  obtain ⟨-, -, -, -, hpermuted, -⟩ := option_order_matters_within_keys options
  exact ⟨kept, (hpermuted σ kept).2⟩

end ChatEngine
