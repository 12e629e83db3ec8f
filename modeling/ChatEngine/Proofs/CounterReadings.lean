import ChatEngine.Metrics.Registry
import ChatEngine.Proofs.NearestDoubles

/-!
# Readings of counters

What counters show. A counter adds one to a float each time it counts, and floats tell whole numbers
below `2 ^ 53` apart, so up to there a counter shows how often it counted (`Counter.reading_eq`).
Counters and histograms keep a value for every set of labels; recording something under one set
leaves what is kept under the others.
-/

namespace ChatEngine

/-! ### Counting in floats -/

namespace Counter
open Float.Model Float.Model.UnpackedFloat Decimal

/-- What a counter shows that counted so often. -/
def reading : Nat → Float
  | 0 => 0.0
  | k + 1 => reading k + 1.0

lemma ofNat_succ {k : Nat} (small : k + 1 < 2 ^ 53) :
    Float.Model.ofNat k + Float.Model.ofNat 1 = Float.Model.ofNat (k + 1) := by
  rcases k.eq_zero_or_pos with rfl | hk
  · decide
  · have hb {n : Nat} (hn : 0 < n) (hsmall : n < 2 ^ 53) : (Binary.normal n 0).Canonical :=
      Binary.normal_canonical hn hsmall (by norm_num) (by norm_num)
    have hfirst := hb hk (by omega)
    have hone := hb one_pos (by omega)
    have hsum := hb k.succ_pos small
    have hvalue : ((Binary.normal k 0).mantissa * 2 ^ (Binary.normal k 0).exponent +
        (Binary.normal 1 0).mantissa * 2 ^ (Binary.normal 1 0).exponent : ℚ) =
        (k + 1 : Nat) * 2 ^ (0 : Int) := by
      rw [Binary.normal_value hk (by omega), Binary.normal_value one_pos (by omega)]
      push_cast
      ring
    have hcovers := Binary.covers_self (.normal (k + 1) 0)
    rw [Binary.normal_value k.succ_pos small, ← hvalue] at hcovers
    change Float.Model.pack (UnpackedFloat.add Format.binary64 (Float.Model.ofNat k).unpack
      (Float.Model.ofNat 1).unpack) = _
    rw [Decimal.ofNat_eq hk (by omega), Decimal.ofNat_eq one_pos (by omega),
      Decimal.ofNat_eq k.succ_pos small, toFloat_finite hfirst, toFloat_finite hone,
      toFloat_finite hsum, hfirst.unpack_pack, hone.unpack_pack]
    exact congrArg Float.Model.pack (hsum.add_eq hfirst.pos hone.pos hcovers)

/-- Below `2 ^ 53` a counter shows how often it counted. -/
theorem reading_eq {k : Nat} (small : k < 2 ^ 53) : reading k = k.toUInt64.toFloat := by
  have hnumber (n : Nat) (hn : n < 2 ^ 53) : n.toUInt64.toFloat = ⟨Float.Model.ofNat n⟩ := by
    have hsmall : n.toUInt64.toNat = n := Nat.mod_eq_of_lt (by omega)
    unfold UInt64.toFloat Float.Model.ofUInt64 UnpackedFloat.ofUInt64
    rw [hsmall]
    rfl
  induction k with
  | zero => decide
  | succ k ih =>
    have hone : (1.0 : Float) = ⟨Float.Model.ofNat 1⟩ := by decide
    rw [reading, ih (by omega), hnumber _ small, hnumber k (by omega), hone, ← ofNat_succ small]
    rfl

/-- Whether a value says that something was counted so often. Beyond `2 ^ 53`, where floats do not
tell whole numbers apart, it is the value that counting so often leads to. -/
def Shows (value : Float) (k : Nat) : Prop :=
  value = reading k ∧ (k < 2 ^ 53 → value = k.toUInt64.toFloat)

lemma shows_iff {value : Float} {k : Nat} : Shows value k ↔ value = reading k :=
  ⟨fun h => h.1, fun h => ⟨h, fun small => h.trans (reading_eq small)⟩⟩

lemma Shows.succ {value : Float} {k : Nat} (h : Shows value k) : Shows (value + 1.0) (k + 1) :=
  shows_iff.mpr (congrArg (· + 1.0) h.1)

/-- Counting one more thing under its own labels. -/
lemma Shows.tally {ι : Type} [DecidableEq ι] {value value' : ι → Float} {counted : List ι} {new : ι}
    (h : ∀ i, Shows (value i) (counted.count i)) (hnew : value' new = value new + 1.0)
    (hother : ∀ i, i ≠ new → value' i = value i) (i : ι) :
    Shows (value' i) ((counted ++ [new]).count i) := by
  rw [List.count_append, List.count_singleton]
  by_cases hi : i = new
  · subst hi
    rw [hnew, beq_self_eq_true, if_pos rfl]
    exact (h i).succ
  · rw [hother i hi, if_neg fun hbeq => hi (beq_iff_eq.mp hbeq).symm, Nat.add_zero]
    exact h i

end Counter

/-! ### Labels -/

namespace LabelSet

lemma ofList_singleton (label : String × String) : ofList [label] = [label] :=
  List.mergeSort_singleton label

/-- The labels of a method of a service. -/
def ofMethod (service method : String) : List (String × String) :=
  [("service", service), ("method", method)]

lemma mem_ofMethod {service method : String} {label : String × String} :
    label ∈ ofList (ofMethod service method) ↔
      label = ("service", service) ∨ label = ("method", method) := by
  rw [ofList, List.mem_mergeSort]
  change label ∈ [("service", service), ("method", method)] ↔ _
  rw [List.mem_cons, List.mem_singleton]

lemma ofMethod_inj {service method service' method' : String}
    (h : ofList (ofMethod service method) = ofList (ofMethod service' method')) :
    service = service' ∧ method = method' := by
  have hservice := mem_ofMethod.mp (h ▸ mem_ofMethod.mpr (.inl rfl))
  have hmethod := mem_ofMethod.mp (h ▸ mem_ofMethod.mpr (.inr rfl))
  simpa using And.intro hservice hmethod

end LabelSet

/-! ### Values by labels -/

namespace Metrics

/-- What a counter shows for labels. -/
def value (m : Metrics) (id : CounterId) (labels : List (String × String)) : Float :=
  (m.counter id).get (LabelSet.ofList labels)

/-- What a histogram observed for labels. -/
def observed (m : Metrics) (id : HistogramId) (labels : List (String × String)) : List Float :=
  (m.histogram id).observations (LabelSet.ofList labels)

variable {m : Metrics} {id id' : CounterId} {labels labels' : List (String × String)}

lemma counter_setCounter (c : Counter) :
    (m.setCounter id c).counter id' = if id' = id then c else m.counter id' := by
  cases id <;> cases id' <;> rfl

lemma histogram_setHistogram {id id' : HistogramId} (c : Histogram Float) :
    (m.setHistogram id c).histogram id' = if id' = id then c else m.histogram id' := by
  cases id <;> cases id' <;> rfl

lemma value_count_self : (m.count id labels).value id labels = m.value id labels + 1.0 := by
  rw [value, count, counter_setCounter, if_pos rfl, Counter.get, Counter.add, Series.modify,
    Series.at_, Entries.get?_put, if_pos rfl]
  rfl

lemma value_count_apart (h : LabelSet.ofList labels' ≠ LabelSet.ofList labels) :
    (m.count id labels).value id labels' = m.value id labels' := by
  rw [value, count, counter_setCounter, if_pos rfl, Counter.get, Counter.add, Series.modify,
    Series.at_, Entries.get?_put, if_neg h]
  rfl

lemma value_count_other (h : id' ≠ id) :
    (m.count id labels).value id' labels' = m.value id' labels' := by
  rw [value, count, counter_setCounter, if_neg h]
  rfl

@[simp] lemma value_observe (hid : HistogramId) (seconds : Float) :
    (m.observe hid labels seconds).value id labels' = m.value id labels' := by
  cases hid <;> cases id <;> rfl

@[simp] lemma observed_count (hid : HistogramId) :
    (m.count id labels).observed hid labels' = m.observed hid labels' := by
  cases hid <;> cases id <;> rfl

lemma observed_observe_self (hid : HistogramId) (seconds : Float) :
    (m.observe hid labels seconds).observed hid labels = m.observed hid labels ++ [seconds] := by
  rw [observed, observe, histogram_setHistogram, if_pos rfl, Histogram.observations_observe,
    if_pos rfl]
  rfl

lemma observed_observe_apart (hid : HistogramId) (seconds : Float)
    (h : LabelSet.ofList labels' ≠ LabelSet.ofList labels) :
    (m.observe hid labels seconds).observed hid labels' = m.observed hid labels' := by
  rw [observed, observe, histogram_setHistogram, if_pos rfl, Histogram.observations_observe,
    if_neg h]
  rfl

lemma observed_observe_other {hid hid' : HistogramId} (seconds : Float) (h : hid' ≠ hid) :
    (m.observe hid labels seconds).observed hid' labels' = m.observed hid' labels' := by
  rw [observed, observe, histogram_setHistogram, if_neg h]
  rfl

end Metrics

end ChatEngine
