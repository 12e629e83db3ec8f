import ChatEngine.Metrics.Series
import ChatEngine.Proofs.MergedOptions
import ChatEngine.Proofs.OrderedDoubles

/-!
# Buckets of histograms

The buckets of a histogram divide the values observed under a set of labels. Where bounds increase,
the first bound that a value does not exceed is the one with the value between it and the bound
before (`first_iff_between`), so every step of counting keeps the counts those of the values between
the bounds (`Divides.tally`). Sets of labels are told apart by what they say, not by how they are
written (`LabelSet.ofList_eq_iff`).
-/

namespace ChatEngine

/-! ### Labels -/

/-- The order of the entries makes no difference to what is found. -/
lemma Entries.get?_of_perm {κ α : Type} [DecidableEq κ] {entries more : List (κ × α)}
    (distinct : (entries.map Prod.fst).Nodup) (perm : entries.Perm more) (key : κ) :
    get? key entries = get? key more := by
  have hkeys := perm.map Prod.fst
  cases hfound : get? key entries with
  | none =>
    have habsent := get?_eq_none_iff.mp hfound
    exact (get?_of_not_mem fun hmem => habsent (hkeys.mem_iff.mpr hmem)).symm
  | some value =>
    have hmem := perm.mem_iff.mp (mem_of_get? hfound)
    exact (get?_of_mem (hkeys.nodup_iff.mp distinct) hmem).symm

namespace LabelSet

/-- Whether labels say the same, in whatever order they are written. -/
def Same (a b : List (String × String)) : Prop :=
  ∀ name, Entries.get? name (Entries.ofList a) = Entries.get? name (Entries.ofList b)

lemma Same.symm {a b : List (String × String)} (h : Same a b) : Same b a := fun name =>
  (h name).symm

lemma Same.trans {a b c : List (String × String)} (hab : Same a b) (hbc : Same b c) : Same a c :=
  fun name => (hab name).trans (hbc name)

lemma same_iff_perm {a b : List (String × String)} :
    Same a b ↔ (Entries.ofList a).Perm (Entries.ofList b) :=
  ⟨Entries.perm_of_get?_eq (Entries.nodup_keys_ofList a) (Entries.nodup_keys_ofList b),
    Entries.get?_of_perm (Entries.nodup_keys_ofList a)⟩

instance (a b : List (String × String)) : Decidable (Same a b) :=
  decidable_of_iff _ same_iff_perm.symm

lemma le_iff {x y : String × String} : le x y = true ↔ x.1 < y.1 ∨ x.1 = y.1 ∧ ¬ y.2 < x.2 := by
  simp [le]

lemma le_trans (x y z : String × String) (hxy : le x y = true) (hyz : le y z = true) :
    le x z = true := by
  rw [le_iff] at hxy hyz ⊢
  rcases hxy with hxy | ⟨hxy, hvalue⟩
  · rcases hyz with hyz | ⟨hyz, -⟩
    · exact .inl (String.lt_trans hxy hyz)
    · exact .inl (hyz ▸ hxy)
  · rcases hyz with hyz | ⟨hyz, hvalue'⟩
    · exact .inl (hxy ▸ hyz)
    · exact .inr ⟨hxy.trans hyz, String.not_lt.mpr
        (String.le_trans (String.not_lt.mp hvalue) (String.not_lt.mp hvalue'))⟩

lemma le_total (x y : String × String) : (le x y || le y x) = true := by
  rw [Bool.or_eq_true, le_iff, le_iff]
  by_cases hname : x.1 < y.1
  · exact .inl (.inl hname)
  by_cases hname' : y.1 < x.1
  · exact .inr (.inl hname')
  have heq := String.le_antisymm (String.not_lt.mp hname') (String.not_lt.mp hname)
  by_cases hvalue : y.2 < x.2
  · exact .inr (.inr ⟨heq.symm, String.lt_asymm hvalue⟩)
  · exact .inl (.inr ⟨heq, hvalue⟩)

lemma le_antisymm {x y : String × String} (hxy : le x y = true) (hyx : le y x = true) : x = y := by
  rw [le_iff] at hxy hyx
  rcases hxy with hxy | ⟨hxy, hvalue⟩
  · rcases hyx with hyx | ⟨hyx, -⟩
    · exact absurd hyx (String.lt_asymm hxy)
    · exact absurd (hyx ▸ hxy) (String.lt_irrefl _)
  · rcases hyx with hyx | ⟨-, hvalue'⟩
    · exact absurd (hxy ▸ hyx) (String.lt_irrefl _)
    · exact Prod.ext hxy (String.le_antisymm (String.not_lt.mp hvalue) (String.not_lt.mp hvalue'))

/-- The same labels are kept under the same key, however they are written. -/
lemma ofList_eq_iff {a b : List (String × String)} : ofList a = ofList b ↔ Same a b := by
  have hperm (labels : List (String × String)) : (ofList labels).Perm (Entries.ofList labels) :=
    List.mergeSort_perm _ le
  have hsorted (labels : List (String × String)) :
      (ofList labels).Pairwise fun x y => le x y = true :=
    List.pairwise_mergeSort le_trans le_total (Entries.ofList labels)
  rw [same_iff_perm]
  constructor
  · intro h
    have hb := hperm b
    rw [← h] at hb
    exact (hperm a).symm.trans hb
  · intro h
    exact (((hperm a).trans h).trans (hperm b).symm).eq_of_pairwise
      (fun x y _ _ => le_antisymm) (hsorted a) (hsorted b)

end LabelSet

namespace Histogram

/-! ### The first bound that is not exceeded -/

/-- Whether a value is above the lower bound, if there is one, and not above the upper one. -/
def between (lower : Option Float) (upper v : Float) : Bool :=
  lower.all (fun b => b < v) && v ≤ upper

/-- Whether a bound is the first that a value does not exceed. -/
structure First (bounds : List Float) (v : Float) (i : Nat) : Prop where
  lt : i < bounds.length
  le : v ≤ bounds[i]
  exceeds : ∀ j (h : j < i), ¬ v ≤ bounds[j]

section
variable {bounds : List Float} {v : Float} {i j : Nat}

lemma First.unique (hi : First bounds v i) (hj : First bounds v j) : i = j := by
  rcases Nat.lt_trichotomy i j with h | h | h
  · exact absurd hi.le (hj.exceeds i h)
  · exact h
  · exact absurd hj.le (hi.exceeds j h)

lemma first_of_find? {b : Float} (h : bounds.find? (fun b => v ≤ b) = some b) :
    ∃ i, bounds[i]? = some b ∧ First bounds v i := by
  obtain ⟨hle, i, hi, rfl, hexceeds⟩ := List.find?_eq_some_iff_getElem.mp h
  refine ⟨i, List.getElem?_eq_getElem hi, hi, of_decide_eq_true hle, fun j hj => ?_⟩
  simpa using hexceeds j hj

/-- Where bounds increase, the first one that a value does not exceed has the value between it and
the bound before. -/
lemma first_iff_between (increasing : bounds.Pairwise (· < ·)) {b : Float}
    (hb : bounds[i]? = some b) :
    First bounds v i ↔ between (bounds.take i).getLast? b v = true := by
  obtain ⟨hi, rfl⟩ := List.getElem?_eq_some_iff.mp hb
  rw [between, Bool.and_eq_true, decide_eq_true_iff]
  cases i with
  | zero =>
    constructor
    · exact fun h => ⟨rfl, h.le⟩
    · exact fun h => ⟨hi, h.2, fun j hj => absurd hj (Nat.not_lt_zero j)⟩
  | succ k =>
    have hlast : (bounds.take (k + 1)).getLast? = some bounds[k] := by
      rw [List.getLast?_take, if_neg k.succ_ne_zero, Nat.add_sub_cancel,
        List.getElem?_eq_getElem (by omega), Option.some_or]
    have hstep : bounds[k] < bounds[k + 1] :=
      List.pairwise_iff_getElem.mp increasing k (k + 1) _ hi k.lt_succ_self
    rw [hlast, Option.all_some, decide_eq_true_iff]
    constructor
    · intro h
      exact ⟨Double.lt_of_not_le hstep h.le (h.exceeds k k.lt_succ_self), h.le⟩
    · rintro ⟨hlower, hupper⟩
      refine ⟨hi, hupper, fun j hj => Double.not_le_of_lt ?_⟩
      rcases Nat.lt_succ_iff_lt_or_eq.mp hj with hlt | rfl
      · have hbefore := List.pairwise_iff_getElem.mp increasing j k (by omega) (by omega) hlt
        exact Double.lt_trans hbefore hlower
      · exact hlower

lemma le_last (increasing : bounds.Pairwise (· < ·)) {last : Float}
    (hlast : bounds.getLast? = some last) (h : First bounds v i) : v ≤ last := by
  obtain ⟨hi, hle, -⟩ := h
  rw [List.getLast?_eq_getElem?] at hlast
  obtain ⟨hend, rfl⟩ := List.getElem?_eq_some_iff.mp hlast
  rcases Nat.lt_or_ge i (bounds.length - 1) with hlt | hge
  · have hless := List.pairwise_iff_getElem.mp increasing i _ hi hend hlt
    exact Double.le_trans hle (Double.le_of_lt hless)
  · have hplace : i = bounds.length - 1 := by omega
    subst hplace
    exact hle

/-! ### Counting -/

lemma distinctBounds_eq (increasing : bounds.Pairwise (· < ·)) : distinctBounds bounds = bounds := by
  induction bounds using List.reverseRecOn with
  | nil => rfl
  | append_singleton bounds b ih =>
    obtain ⟨hbounds, -, hlast⟩ := List.pairwise_append.mp increasing
    have hnew : bounds.any (· == b) = false := List.any_eq_false.mpr fun a ha => by
      rw [Double.not_beq_of_lt (hlast a ha b List.mem_cons_self)]
      exact Bool.false_ne_true
    have hfold : distinctBounds (bounds ++ [b]) =
        if (distinctBounds bounds).any (· == b) then distinctBounds bounds
        else distinctBounds bounds ++ [b] := by
      unfold distinctBounds
      rw [List.foldl_append, List.foldl_cons, List.foldl_nil]
    rw [hfold, ih hbounds, hnew, if_neg Bool.false_ne_true]

/-- Whether counts are those of values in the buckets that bounds make. -/
structure Divides (bounds values : List Float) (counts : List (Float × Nat)) : Prop where
  /-- Every bound has its bucket, in order. -/
  keys : counts.map Prod.fst = bounds
  /-- A bucket counts what is above the bound before, if there is one, and not above its own. -/
  count : ∀ i b n, counts[i]? = some (b, n) →
    n = values.countP (between (bounds.take i).getLast? b)
  /-- All buckets together count what is not above the last bound. -/
  total : ∀ last ∈ bounds.getLast?,
    (counts.map Prod.snd).sum = values.countP fun v => v ≤ last

variable {values : List Float} {counts : List (Float × Nat)}

lemma Divides.start (bounds : List Float) : Divides bounds [] (bounds.map (·, 0)) where
  keys := by simp [Function.comp_def]
  count i b n h := by
    rw [List.getElem?_map] at h
    obtain ⟨_, -, hzero⟩ := Option.map_eq_some_iff.mp h
    exact (congrArg Prod.snd hzero).symm
  total last _ := by simp [Function.comp_def]

lemma Divides.bound_eq (h : Divides bounds values counts) {b : Float} {n : Nat}
    (hi : counts[i]? = some (b, n)) : bounds[i]? = some b := by
  rw [← h.keys, List.getElem?_map, hi]
  rfl

/-- A value above all bounds counts nowhere. -/
lemma Divides.exceed (h : Divides bounds values counts) (above : ∀ b ∈ bounds, ¬ v ≤ b) :
    Divides bounds (values ++ [v]) counts where
  keys := h.keys
  count i b n hi := by
    have hmem : b ∈ bounds := List.mem_of_getElem? (h.bound_eq hi)
    have hout : between (bounds.take i).getLast? b v = false := by
      rw [between, decide_eq_false (above b hmem), Bool.and_false]
    rw [List.countP_append, List.countP_singleton, hout, if_neg Bool.false_ne_true, Nat.add_zero]
    exact h.count i b n hi
  total last hlast := by
    have hout : decide (v ≤ last) = false :=
      decide_eq_false (above last (List.mem_of_getLast? hlast))
    rw [List.countP_append, List.countP_singleton, hout, if_neg Bool.false_ne_true, Nat.add_zero]
    exact h.total last hlast

lemma countAt_eq (h : Divides bounds values counts) (increasing : bounds.Pairwise (· < ·))
    {b : Float} (hb : bounds[i]? = some b) (first : First bounds v i) :
    countAt counts b = counts.modify i fun c => (c.1, c.2 + 1) := by
  obtain ⟨hi, rfl⟩ := List.getElem?_eq_some_iff.mp hb
  have hkeys (b : Float) : counts.findIdx (fun c => c.1 == b) = bounds.findIdx (· == b) := by
    rw [← h.keys, List.findIdx_map]
    rfl
  have hplace : counts.findIdx (fun c => c.1 == bounds[i]) = i := by
    rw [hkeys, List.findIdx_eq hi]
    refine ⟨Double.beq_self_of_le first.le, fun j hj => ?_⟩
    exact Double.not_beq_of_lt (List.pairwise_iff_getElem.mp increasing j i _ hi hj)
  rw [countAt, hplace]

lemma sum_modify {counts : List (Float × Nat)} (hi : i < counts.length) :
    ((counts.modify i fun c => (c.1, c.2 + 1)).map Prod.snd).sum =
      (counts.map Prod.snd).sum + 1 := by
  have hparts : counts = counts.take i ++ counts[i] :: counts.drop (i + 1) := by simp
  rw [List.modify_eq_take_cons_drop hi]
  conv_rhs => rw [hparts]
  simp only [List.map_append, List.map_cons, List.sum_append, List.sum_cons]
  omega

/-- A value counts in the bucket of the first bound that it does not exceed, and in no other. -/
lemma Divides.counted (h : Divides bounds values counts) (increasing : bounds.Pairwise (· < ·))
    (first : First bounds v i) :
    Divides bounds (values ++ [v]) (counts.modify i fun c => (c.1, c.2 + 1)) where
  keys := by
    refine Eq.trans (List.ext_getElem? fun j => ?_) h.keys
    rw [List.getElem?_map, List.getElem?_map, List.getElem?_modify]
    cases counts[j]? with
    | none => rfl
    | some c => by_cases hij : i = j <;> simp [hij]
  count j b n hj := by
    rw [List.getElem?_modify] at hj
    obtain ⟨⟨a, m⟩, hm, hcount⟩ := Option.map_eq_some_iff.mp hj
    have hbefore := h.count j a m hm
    have hbound := h.bound_eq hm
    rw [List.countP_append, List.countP_singleton]
    by_cases hij : i = j
    · subst hij
      rw [if_pos rfl, Prod.mk.injEq] at hcount
      obtain ⟨rfl, rfl⟩ := hcount
      rw [if_pos ((first_iff_between increasing hbound).mp first), ← hbefore]
    · -- the value is not between the bounds of any other bucket
      rw [if_neg hij, Prod.mk.injEq] at hcount
      obtain ⟨rfl, rfl⟩ := hcount
      rw [if_neg fun hbetween =>
        hij (first.unique ((first_iff_between increasing hbound).mpr hbetween)), ← hbefore]
      rfl
  total last hlast := by
    have hi : i < counts.length := by
      have hlength := congrArg List.length h.keys
      rw [List.length_map] at hlength
      exact hlength ▸ first.lt
    rw [sum_modify hi, List.countP_append, List.countP_singleton,
      if_pos (decide_eq_true (le_last increasing hlast first)), h.total last hlast]

/-- Every step of counting keeps the counts those of the values between the bounds. -/
lemma Divides.tally (h : Divides bounds values counts) (increasing : bounds.Pairwise (· < ·))
    (v : Float) : Divides bounds (values ++ [v]) (tally bounds counts v) := by
  unfold Histogram.tally
  cases hfind : bounds.find? (fun b => v ≤ b) with
  | none =>
    refine h.exceed fun b hb => ?_
    simpa using List.find?_eq_none.mp hfind b hb
  | some b =>
    obtain ⟨i, hb, first⟩ := first_of_find? hfind
    dsimp only
    rw [countAt_eq h increasing hb first]
    exact h.counted increasing first

lemma Divides.tallyAll (h : Divides bounds values counts) (increasing : bounds.Pairwise (· < ·))
    (more : List Float) :
    Divides bounds (values ++ more) (more.foldl (Histogram.tally bounds) counts) := by
  induction more generalizing values counts with
  | nil => rwa [List.append_nil]
  | cons v more ih =>
    have hrest := ih (h.tally increasing v)
    rwa [List.append_assoc, List.singleton_append] at hrest

/-- Counting values one after the other divides them. -/
lemma tallied_divide (increasing : bounds.Pairwise (· < ·)) (values : List Float) :
    Divides bounds values
      (values.foldl (Histogram.tally bounds) ((distinctBounds bounds).map (·, 0))) := by
  rw [distinctBounds_eq increasing]
  exact (Divides.start bounds).tallyAll increasing values

/-- The counts of buckets depend on the values only, not on their order. -/
lemma Divides.eq_of_perm {values' : List Float} {counts' : List (Float × Nat)}
    (h : Divides bounds values counts) (h' : Divides bounds values' counts')
    (perm : values.Perm values') : counts = counts' := by
  refine List.ext_getElem? fun j => ?_
  have hkeys : counts[j]?.map Prod.fst = counts'[j]?.map Prod.fst := by
    rw [← List.getElem?_map, ← List.getElem?_map, h.keys, h'.keys]
  cases hj : counts[j]? with
  | none =>
    rw [hj] at hkeys
    exact (Option.map_eq_none_iff.mp hkeys.symm).symm
  | some c =>
    obtain ⟨b, n⟩ := c
    rw [hj] at hkeys
    obtain ⟨⟨b', n'⟩, hj', rfl⟩ := Option.map_eq_some_iff.mp hkeys.symm
    rw [hj', h.count j _ n hj, h'.count j _ n' hj', perm.countP_eq]

end

/-! ### Observations -/

/-- A value and the labels under which it was observed, as they were written. -/
structure Observation where
  labels : List (String × String)
  value : Float

/-- A histogram after observations. -/
def recorded (observations : List Observation) : Histogram Float :=
  observations.foldl (fun h o => h.observe (LabelSet.ofList o.labels) o.value) []

/-- The values observed under labels that say the same. -/
def valuesUnder (labels : List (String × String)) (observations : List Observation) : List Float :=
  (observations.filter fun o => LabelSet.Same o.labels labels).map (·.value)

/-- Whether observations differ in their order only, and in the order in which labels are
written. -/
def Rearranged (observations observations' : List Observation) : Prop :=
  ∃ middle, observations.Perm middle ∧
    List.Forall₂ (fun o o' => LabelSet.Same o.labels o'.labels ∧ o.value = o'.value)
      middle observations'

/-- The counts that a histogram with given bounds shows for labels after observations. -/
def countsAfter (given : List Float) (observations : List Observation)
    (labels : List (String × String)) : List (Float × Nat) :=
  (recorded observations).buckets (boundsOf given) (LabelSet.ofList labels)

lemma observations_recorded (labels : List (String × String)) (observations : List Observation) :
    (recorded observations).observations (LabelSet.ofList labels) =
      valuesUnder labels observations := by
  induction observations using List.reverseRecOn with
  | nil => rfl
  | append_singleton observations o ih =>
    have hstep : recorded (observations ++ [o]) =
        (recorded observations).observe (LabelSet.ofList o.labels) o.value := by
      rw [recorded, List.foldl_append]
      rfl
    rw [hstep, observations_observe, valuesUnder, List.filter_append, List.map_append]
    by_cases hsame : LabelSet.Same o.labels labels
    · have hlabels := LabelSet.ofList_eq_iff.mpr hsame
      rw [if_pos hlabels.symm, hlabels, ih, List.filter_singleton, decide_eq_true hsame]
      rfl
    · have hlabels : LabelSet.ofList labels ≠ LabelSet.ofList o.labels := fun h =>
        hsame (LabelSet.ofList_eq_iff.mp h.symm)
      rw [if_neg hlabels, ih, List.filter_singleton, decide_eq_false hsame]
      exact (List.append_nil _).symm

lemma valuesUnder_rewritten {observations observations' : List Observation}
    {labels labels' : List (String × String)} (same : LabelSet.Same labels labels')
    (h : List.Forall₂ (fun o o' => LabelSet.Same o.labels o'.labels ∧ o.value = o'.value)
      observations observations') :
    valuesUnder labels observations = valuesUnder labels' observations' := by
  unfold valuesUnder
  induction h with
  | nil => rfl
  | @cons o o' observations observations' hfirst _ ih =>
    obtain ⟨hlabels, hvalue⟩ := hfirst
    have hunder : LabelSet.Same o.labels labels ↔ LabelSet.Same o'.labels labels' :=
      ⟨fun h => (hlabels.symm.trans h).trans same, fun h => (hlabels.trans h).trans same.symm⟩
    have hdecide : decide (LabelSet.Same o.labels labels) =
        decide (LabelSet.Same o'.labels labels') := decide_eq_decide.mpr hunder
    rw [List.filter_cons, List.filter_cons, hdecide]
    split
    · rw [List.map_cons, List.map_cons, hvalue, ih]
    · exact ih

lemma valuesUnder_rearranged {observations observations' : List Observation}
    {labels labels' : List (String × String)} (h : Rearranged observations observations')
    (same : LabelSet.Same labels labels') :
    (valuesUnder labels observations).Perm (valuesUnder labels' observations') := by
  obtain ⟨middle, hperm, hrewritten⟩ := h
  rw [← valuesUnder_rewritten same hrewritten]
  exact (hperm.filter _).map _

lemma boundsOf_increasing {given : List Float} (increasing : given.Pairwise (· < ·)) :
    (boundsOf given).Pairwise (· < ·) := by
  unfold boundsOf
  split
  · decide
  · exact increasing

lemma countsAfter_eq (given : List Float) (observations : List Observation)
    (labels : List (String × String)) :
    countsAfter given observations labels =
      (valuesUnder labels observations).foldl (tally (boundsOf given))
        ((distinctBounds (boundsOf given)).map (·, 0)) := by
  rw [countsAfter, buckets, observations_recorded]

/-- The buckets of a histogram divide the values observed under the labels asked for. -/
theorem buckets_divide_observations {given : List Float} (increasing : given.Pairwise (· < ·))
    (observations : List Observation) (labels : List (String × String)) :
    Divides (boundsOf given) (valuesUnder labels observations)
      (countsAfter given observations labels) ∧
    ((boundsOf given).getLast? = some (1.0 / 0.0) →
      (∀ v ∈ valuesUnder labels observations, v.isNaN = false) →
      ((countsAfter given observations labels).map Prod.snd).sum =
        (valuesUnder labels observations).length) ∧
    ∀ observations' labels', Rearranged observations observations' →
      LabelSet.Same labels labels' →
      countsAfter given observations' labels' = countsAfter given observations labels := by
  have hdivide (observations : List Observation) (labels : List (String × String)) :
      Divides (boundsOf given) (valuesUnder labels observations)
        (countsAfter given observations labels) := by
    rw [countsAfter_eq]
    exact tallied_divide (boundsOf_increasing increasing) _
  refine ⟨hdivide observations labels, ?_, ?_⟩
  · intro hlast hnumbers
    rw [(hdivide observations labels).total _ hlast, List.countP_eq_length]
    exact fun v hv => decide_eq_true (Double.le_infinity (hnumbers v hv))
  · intro observations' labels' hrearranged hsame
    exact (hdivide observations' labels').eq_of_perm (hdivide observations labels)
      (valuesUnder_rearranged hrearranged hsame).symm

/-- How long plugins took for new messages. -/
def timings : List Observation :=
  [⟨[("plugin", "karma"), ("type", "new")], 0.1⟩, ⟨[("type", "new"), ("plugin", "karma")], 5.0⟩,
    ⟨[("plugin", "versioner"), ("type", "new")], 0.5⟩,
    ⟨[("plugin", "karma"), ("type", "new")], 0.5⟩]

theorem value_on_boundary_counts_below :
    let bounds : List Float := [0.1, 1.0, 1.0 / 0.0]
    let labels := [("type", "new"), ("plugin", "karma")]
    bounds.Pairwise (· < ·) ∧ valuesUnder labels timings = [0.1, 5.0, 0.5] ∧
      Divides bounds [0.1, 5.0, 0.5] [(0.1, 1), (1.0, 1), (1.0 / 0.0, 1)] ∧
      countsAfter bounds timings labels = [(0.1, 1), (1.0, 1), (1.0 / 0.0, 1)] ∧
      ((countsAfter bounds timings labels).map Prod.snd).sum = 3 ∧
      countsAfter bounds timings.reverse labels.reverse = countsAfter bounds timings labels := by
  intro bounds labels
  have hincreasing : bounds.Pairwise (· < ·) := by decide
  have hvalues : valuesUnder labels timings = [0.1, 5.0, 0.5] := by decide
  have hcounts : countsAfter bounds timings labels = [(0.1, 1), (1.0, 1), (1.0 / 0.0, 1)] := by
    rw [countsAfter_eq, hvalues]
    decide
  obtain ⟨hdivides, hall, hrearranged⟩ := buckets_divide_observations hincreasing timings labels
  rw [hvalues] at hdivides hall
  refine ⟨hincreasing, hvalues, hcounts ▸ hdivides, hcounts, hall rfl (by decide), ?_⟩
  refine hrearranged _ _ ⟨timings.reverse, timings.reverse_perm.symm, ?_⟩ (by decide)
  exact List.forall₂_same.mpr fun o _ => ⟨fun _ => rfl, rfl⟩

end Histogram

end ChatEngine
