import ChatEngine.Proofs.DoubleBits

/-!
# Nearest doubles

Rounding to doubles. The numbers that round to a double are those no farther from it than halfway to
its neighbours (`Binary.Covers`), which is what `Binary.roundsTo` decides. Sums, products and
quotients become the double among whose numbers they are (`Binary.Canonical.roundWithAccuracy_eq`).
-/

namespace ChatEngine.Decimal
open Float.Model Float.Model.UnpackedFloat

/-! ### Values of fractions -/

namespace Fraction

def toRat (v : Fraction) : ℚ := v.num / v.den

variable {base : Nat}

lemma den_scaled_pos (hbase : 0 < base) (n : Nat) (e : Int) : 0 < (scaled n base e).den := by
  unfold scaled
  split
  · exact Nat.one_pos
  · exact Nat.pow_pos hbase

lemma num_scaled_pos (hbase : 0 < base) {n : Nat} (hn : 0 < n) (e : Int) :
    0 < (scaled n base e).num := by
  unfold scaled
  split
  · exact Nat.mul_pos hn (Nat.pow_pos hbase)
  · exact hn

lemma toRat_scaled (n : Nat) (e : Int) : (scaled n base e).toRat = n * (base : ℚ) ^ e := by
  unfold scaled toRat
  split
  · next he =>
    obtain ⟨k, rfl⟩ := Int.eq_ofNat_of_zero_le he
    simp
  · next he =>
    obtain ⟨k, hk⟩ : ∃ k : Nat, e = -(k : Int) := ⟨(-e).toNat, by omega⟩
    subst hk
    simp [zpow_neg, div_eq_mul_inv]

variable {v w : Fraction}

lemma toRat_le (hv : 0 < v.den) (hw : 0 < w.den) :
    v.toRat ≤ w.toRat ↔ v.num * w.den ≤ w.num * v.den := by
  unfold toRat
  rw [div_le_div_iff₀ (by positivity) (by positivity)]
  norm_cast

lemma toRat_lt (hv : 0 < v.den) (hw : 0 < w.den) :
    v.toRat < w.toRat ↔ v.num * w.den < w.num * v.den := by
  unfold toRat
  rw [div_lt_div_iff₀ (by positivity) (by positivity)]
  norm_cast

lemma div_toRat (v w : Fraction) :
    ((v.num * w.den : Nat) : ℚ) / (v.den * w.num : Nat) = v.toRat / w.toRat := by
  unfold toRat
  rw [div_div_div_eq, Nat.cast_mul, Nat.cast_mul]

end Fraction

/-! ### The numbers that round to a double -/

/-- Whether a number is rounded to an integer: it is not farther from it than a half, and nearer if
the integer is odd. -/
structure Rounds (y : ℚ) (k : Nat) : Prop where
  low : k - 1 / 2 ≤ y
  high : y ≤ k + 1 / 2
  inner : k % 2 = 1 → k - 1 / 2 < y ∧ y < k + 1 / 2

namespace Binary

/-- How far below a double the numbers begin that round to it, in units of its exponent. -/
def below (b : Binary) : ℚ := if b.narrowBelow then 1 / 4 else 1 / 2

/-- Whether a number rounds to a double: it lies between the points halfway to the neighbours,
which belong to the numbers if the mantissa is even. -/
structure Covers (b : Binary) (v : ℚ) : Prop where
  low : b.mantissa - b.below ≤ v / 2 ^ b.exponent
  high : v / 2 ^ b.exponent ≤ b.mantissa + 1 / 2
  inner : b.mantissa % 2 = 1 →
    b.mantissa - b.below < v / 2 ^ b.exponent ∧ v / 2 ^ b.exponent < b.mantissa + 1 / 2

lemma below_pos (b : Binary) : 0 < b.below := by
  unfold below
  split <;> norm_num

lemma below_le (b : Binary) : b.below ≤ 1 / 2 := by
  unfold below
  split <;> norm_num

variable {b : Binary}

lemma roundsTo_iff (hpos : 0 < b.mantissa) (digits : Nat) (place : Int) :
    b.roundsTo digits place = true ↔ b.Covers (digits * 10 ^ place) := by
  have hunit : (0 : ℚ) < 2 ^ b.exponent := by positivity
  have hquarter : (2 : ℚ) ^ (b.exponent - 2) = 2 ^ b.exponent / 4 := by
    rw [zpow_sub₀ two_ne_zero]
    norm_num
  have hlow : (Fraction.scaled (if b.narrowBelow then 4 * b.mantissa - 1 else 4 * b.mantissa - 2) 2
      (b.exponent - 2)).toRat = (b.mantissa - b.below) * 2 ^ b.exponent := by
    rw [Fraction.toRat_scaled, below, Nat.cast_ofNat, hquarter]
    split
    · rw [Nat.cast_sub (by omega)]
      push_cast
      ring
    · rw [Nat.cast_sub (by omega)]
      push_cast
      ring
  have hhigh : (Fraction.scaled (4 * b.mantissa + 2) 2 (b.exponent - 2)).toRat =
      (b.mantissa + 1 / 2) * 2 ^ b.exponent := by
    rw [Fraction.toRat_scaled, Nat.cast_ofNat, hquarter]
    push_cast
    ring
  have hvalue : (Fraction.scaled digits 10 place).toRat = digits * 10 ^ place := by
    rw [Fraction.toRat_scaled, Nat.cast_ofNat]
  have hden (n base : Nat) (e : Int) (hbase : 0 < base) := Fraction.den_scaled_pos hbase n e
  have hodd : b.mantissa % 2 = 1 ↔ ¬ b.mantissa % 2 = 0 := Nat.mod_two_ne_zero.symm
  unfold roundsTo
  by_cases heven : b.mantissa % 2 = 0
  · simp only [heven, beq_self_eq_true, if_true, Bool.and_eq_true, decide_eq_true_eq]
    rw [← Fraction.toRat_le (hden _ _ _ two_pos) (hden _ _ _ (by norm_num)),
      ← Fraction.toRat_le (hden _ _ _ (by norm_num)) (hden _ _ _ two_pos), hlow, hhigh, hvalue,
      ← le_div_iff₀ hunit, ← div_le_iff₀ hunit]
    exact ⟨fun h => ⟨h.1, h.2, fun hodd => by omega⟩, fun h => ⟨h.low, h.high⟩⟩
  · simp only [beq_iff_eq, heven, if_false, Bool.and_eq_true, decide_eq_true_eq]
    rw [← Fraction.toRat_lt (hden _ _ _ two_pos) (hden _ _ _ (by norm_num)),
      ← Fraction.toRat_lt (hden _ _ _ (by norm_num)) (hden _ _ _ two_pos), hlow, hhigh, hvalue,
      ← lt_div_iff₀ hunit, ← div_lt_iff₀ hunit]
    exact ⟨fun h => ⟨h.1.le, h.2.le, fun _ => h⟩, fun h => h.inner (hodd.mpr heven)⟩

end Binary

/-! ### Extended mantissas -/

/-- The value of an extended mantissa without its last bit. -/
def known (em : ExtendedMantissa) : ℚ := em.mantissa + if em.roundBit then 1 / 2 else 0

/-- Whether an extended mantissa stands for a number: the number is what its bits say, and less than
a half more if the last bit says that there is more. -/
structure Represents (em : ExtendedMantissa) (y : ℚ) : Prop where
  low : known em ≤ y
  high : y < known em + 1 / 2
  sticky : em.stickyBit = true ↔ known em < y

lemma Represents.shiftRightOne {em : ExtendedMantissa} {y : ℚ} (h : Represents em y) :
    Represents em.shiftRightOne (y / 2) := by
  obtain ⟨mantissa, roundBit, stickyBit⟩ := em
  obtain ⟨low, high, sticky⟩ := h
  have hknown : known (ExtendedMantissa.shiftRightOne ⟨mantissa, roundBit, stickyBit⟩) =
      mantissa / 2 := by
    have hsplit : (mantissa : ℚ) = 2 * (mantissa / 2 : Nat) + (mantissa % 2 : Nat) := by
      exact_mod_cast (Nat.div_add_mod mantissa 2).symm
    unfold known ExtendedMantissa.shiftRightOne
    dsimp only
    rcases Nat.mod_two_eq_zero_or_one mantissa with hbit | hbit
    · rw [hbit] at hsplit
      simp [hbit, hsplit]
    · rw [hbit] at hsplit
      simp [hbit, hsplit]
      ring
  unfold known at low high sticky
  dsimp only at low high sticky
  refine ⟨?_, ?_, ?_⟩
  · rw [hknown]
    cases roundBit <;> simp at low <;> linarith
  · rw [hknown]
    cases roundBit <;> simp at high <;> linarith
  · rw [hknown]
    cases roundBit with
    | true =>
      simp at low
      simp [ExtendedMantissa.shiftRightOne]
      linarith
    | false =>
      simp at sticky
      simp [ExtendedMantissa.shiftRightOne, sticky]
      constructor <;> intro h <;> linarith

lemma Represents.shiftRight {em : ExtendedMantissa} {y : ℚ} (h : Represents em y) (n : Nat) :
    Represents (em >>> n) (y / 2 ^ n) := by
  induction n with
  | zero =>
    rw [pow_zero, div_one]
    exact h
  | succ n ih =>
    rw [pow_succ, ← div_div]
    exact ih.shiftRightOne

lemma Represents.roundedMantissa_eq {em : ExtendedMantissa} {y : ℚ} {k : Nat}
    (h : Represents em y) (hk : Rounds y k) : em.roundedMantissa = k := by
  obtain ⟨mantissa, roundBit, stickyBit⟩ := em
  obtain ⟨low, high, sticky⟩ := h
  obtain ⟨klow, khigh, kinner⟩ := hk
  unfold known at low high sticky
  dsimp only at low high sticky
  unfold ExtendedMantissa.roundedMantissa
  cases roundBit with
  | false =>
    -- the number is less than a half above the mantissa
    simp only [Bool.false_eq_true, if_false, add_zero] at low high
    have hle : (mantissa : ℚ) < k + 1 := by linarith
    have hge : (k : ℚ) < mantissa + 1 := by linarith
    have heq : mantissa = k := by
      norm_cast at hle hge
      omega
    cases stickyBit <;> exact heq
  | true =>
    simp only [if_true] at low high sticky
    cases stickyBit with
    | true =>
      have hmore : (mantissa : ℚ) + 1 / 2 < y := sticky.mp rfl
      have hle : (mantissa : ℚ) < k := by linarith
      have hge : (k : ℚ) < mantissa + 2 := by linarith
      norm_cast at hle hge
      change mantissa + 1 = k
      omega
    | false =>
      -- halfway: the even neighbour is the one that the number rounds to
      have hhalf : y = mantissa + 1 / 2 :=
        le_antisymm (not_lt.mp fun hlt => Bool.false_ne_true (sticky.mpr hlt)) low
      subst hhalf
      have hle : (mantissa : ℚ) ≤ k := by linarith
      have hge : (k : ℚ) ≤ mantissa + 1 := by linarith
      norm_cast at hle hge
      change mantissa + mantissa % 2 = k
      have heven : k % 2 ≠ 1 := by
        intro hodd
        obtain ⟨hlt, hgt⟩ := kinner hodd
        have hle' : (mantissa : ℚ) < k := by linarith
        have hge' : (k : ℚ) < mantissa + 1 := by linarith
        norm_cast at hle' hge'
        omega
      omega

/-- A quotient and how its remainder compares with the half stand for the fraction. -/
lemma represents_fraction {num den : Nat} (hden : 0 < den) :
    Represents (.ofMantissaAndAccuracy (num / den) (accuracyOfFraction (num % den) den))
      (num / den) := by
  have hpos : (0 : ℚ) < den := by exact_mod_cast hden
  have hlt : ((num % den : Nat) : ℚ) < den := by exact_mod_cast Nat.mod_lt num hden
  have hsplit : (num : ℚ) / den = (num / den : Nat) + (num % den : Nat) / den := by
    rw [← mul_div_cancel_right₀ ((num / den : Nat) : ℚ) hpos.ne', ← add_div]
    congr 1
    exact_mod_cast (Nat.div_add_mod' num den).symm
  rw [hsplit]
  generalize num / den = q
  generalize num % den = r at hlt ⊢
  have hless : (r : ℚ) / den < 1 := (div_lt_one hpos).mpr hlt
  unfold accuracyOfFraction
  split
  · next hzero =>
    subst hzero
    exact ⟨by simp [known, ExtendedMantissa.ofMantissaAndAccuracy],
      by simp [known, ExtendedMantissa.ofMantissaAndAccuracy],
      by simp [known, ExtendedMantissa.ofMantissaAndAccuracy]⟩
  · next hne =>
    have hmore : (0 : ℚ) < r / den := div_pos (by exact_mod_cast Nat.pos_of_ne_zero hne) hpos
    rcases lt_trichotomy (2 * r) den with hcmp | hcmp | hcmp
    · have hhalf : (r : ℚ) / den < 1 / 2 := by
        rw [div_lt_div_iff₀ hpos two_pos]
        exact_mod_cast (by omega : r * 2 < 1 * den)
      rw [Nat.compare_eq_lt.mpr hcmp]
      refine ⟨?_, ?_, ?_⟩ <;> simp [known, ExtendedMantissa.ofMantissaAndAccuracy] <;> linarith
    · have hhalf : (r : ℚ) / den = 1 / 2 := by
        rw [div_eq_div_iff hpos.ne' two_ne_zero]
        exact_mod_cast (by omega : r * 2 = 1 * den)
      rw [Nat.compare_eq_eq.mpr hcmp]
      refine ⟨?_, ?_, ?_⟩ <;> simp [known, ExtendedMantissa.ofMantissaAndAccuracy] <;> linarith
    · have hhalf : (1 : ℚ) / 2 < r / den := by
        rw [div_lt_div_iff₀ two_pos hpos]
        exact_mod_cast (by omega : 1 * den < r * 2)
      rw [Nat.compare_eq_gt.mpr hcmp]
      refine ⟨?_, ?_, ?_⟩ <;> simp [known, ExtendedMantissa.ofMantissaAndAccuracy] <;> linarith

lemma represents_exact (m : Nat) : Represents (.ofMantissaAndAccuracy m .exact) m := by
  have h := @represents_fraction m 1 Nat.one_pos
  rw [Nat.div_one, Nat.mod_one, Nat.cast_one, div_one] at h
  exact h

/-! ### Rounding to a double -/

lemma targetExponent_eq (m : Nat) (e : Int) :
    Format.binary64.targetExponent (totalExponent m e) = max (m.log2 + e - 52) (-1074) := by
  change max ((m.log2 : Int) + 1 + e - 53) (-1074) = _
  congr 1
  ring

lemma shiftToTargetExponent_eq (m : Nat) {e : Int} (accuracy : Accuracy)
    (hle : e ≤ max (m.log2 + e - 52) (-1074)) :
    shiftToTargetExponent Format.binary64 m e accuracy =
      (ExtendedMantissa.ofMantissaAndAccuracy m accuracy >>>
        (max (m.log2 + e - 52) (-1074) - e).toNat, max (m.log2 + e - 52) (-1074)) := by
  unfold shiftToTargetExponent shiftToExponent
  rw [targetExponent_eq]
  dsimp only
  congr 1
  omega

lemma decreaseExponent_eq (m : Nat) (e target : Int) :
    decreaseExponent m e target = (m * 2 ^ (e - target).toNat, e - (e - target).toNat) := by
  unfold decreaseExponent
  dsimp only
  rw [Nat.shiftLeft_eq]

lemma roundWithAccuracy_of_shifts {s : Sign} {m rounded : Nat} {e e' e'' : Int}
    {accuracy : Accuracy} {em em' : ExtendedMantissa}
    (first : shiftToTargetExponent Format.binary64 m e accuracy = (em, e'))
    (hrounded : em.roundedMantissa = rounded)
    (second : shiftToTargetExponent Format.binary64 rounded e' .exact = (em', e''))
    (hpos : 0 < em'.mantissa) :
    roundWithAccuracy Format.binary64 s m e accuracy = .finite s em'.mantissa e'' hpos := by
  unfold roundWithAccuracy
  rw [first]
  dsimp only
  rw [hrounded, second]
  exact dif_neg hpos.ne'

lemma Represents.mantissa_le {m : Nat} {accuracy : Accuracy} {y : ℚ}
    (h : Represents (.ofMantissaAndAccuracy m accuracy) y) : (m : ℚ) ≤ y ∧ y < m + 1 := by
  obtain ⟨low, high, -⟩ := h
  unfold known ExtendedMantissa.ofMantissaAndAccuracy at low high
  split at low <;> norm_num at low high <;> constructor <;> linarith

namespace Binary.Canonical

variable {b : Binary} (h : b.Canonical)
include h

lemma target_eq :
    Format.binary64.targetExponent (totalExponent b.mantissa b.exponent) = b.exponent := by
  have hleast := h.least
  have hlog : b.mantissa.log2 < 53 := (Nat.log2_lt h.pos.ne').mpr h.lt
  rw [targetExponent_eq]
  rcases eq_or_lt_of_le hleast with heq | hlt
  · omega
  · have hfull : 52 ≤ b.mantissa.log2 := (Nat.le_log2 h.pos.ne').mpr (h.full hlt)
    omega

lemma below_eq (hwide : ¬ (b.mantissa = 2 ^ 52 ∧ -1074 < b.exponent)) : b.below = 1 / 2 :=
  if_neg fun hnarrow => hwide (h.narrow.mp hnarrow)

lemma lt_of_covers {v : ℚ} (hv : b.Covers v) : v < 2 ^ (b.exponent + 53) := by
  have hunit : (0 : ℚ) < 2 ^ b.exponent := by positivity
  have hmantissa : (b.mantissa : ℚ) + 1 ≤ 2 ^ 53 := by exact_mod_cast h.lt
  have hhigh := hv.high
  rw [zpow_add₀ two_ne_zero, mul_comm, ← div_lt_iff₀ hunit]
  norm_num at hmantissa hhigh ⊢
  linarith

lemma gt_of_covers {v : ℚ} (hv : b.Covers v) (hnormal : -1074 < b.exponent) :
    2 ^ (b.exponent + 51) < v := by
  have hunit : (0 : ℚ) < 2 ^ b.exponent := by positivity
  have hmantissa : (2 : ℚ) ^ 52 ≤ b.mantissa := by exact_mod_cast h.full hnormal
  have hbelow := b.below_le
  have hlow := hv.low
  rw [zpow_add₀ two_ne_zero, mul_comm, ← lt_div_iff₀ hunit]
  norm_num
  linarith

/-- Doubles are neither very large nor very small. -/
lemma range_of_covers {v : ℚ} (hv : b.Covers v) :
    2 ^ (-1075 : Int) ≤ v ∧ v < 2 ^ (1024 : Int) := by
  have hleast := h.least
  have hgreatest := h.greatest
  constructor
  · have hunit : (0 : ℚ) < 2 ^ b.exponent := by positivity
    have hmantissa : (1 : ℚ) ≤ b.mantissa := by exact_mod_cast h.pos
    have hhalf : 1 / 2 ≤ v / 2 ^ b.exponent := by
      have hbelow := b.below_le
      have hlow := hv.low
      linarith
    calc (2 : ℚ) ^ (-1075 : Int) ≤ 2 ^ (b.exponent - 1) :=
          zpow_le_zpow_right₀ one_le_two (by omega)
      _ = 1 / 2 * 2 ^ b.exponent := by rw [zpow_sub₀ two_ne_zero, zpow_one]; ring
      _ ≤ v := (le_div_iff₀ hunit).mp hhalf
  · exact (h.lt_of_covers hv).trans_le (zpow_le_zpow_right₀ one_le_two (by omega))

lemma pos_of_covers {n : Nat} {unit : ℚ} (hv : b.Covers (n * unit)) : 0 < n := by
  refine Nat.pos_of_ne_zero ?_
  rintro rfl
  have hlow := (h.range_of_covers hv).1
  rw [Nat.cast_zero, zero_mul] at hlow
  exact hlow.not_gt (by positivity)

/-- Where the mantissa is cut off so that a number becomes the double: in the place of the double's
exponent, or one place below where the spacing of doubles halves. -/
lemma cut {m : Nat} {e : Int} {y : ℚ} (hm : (m : ℚ) ≤ y ∧ y < m + 1)
    (fine : e ≤ -1074 ∨ 2 ^ 52 ≤ m) (hv : b.Covers (y * 2 ^ e)) :
    let target := max (m.log2 + e - 52) (-1074)
    e ≤ target ∧
      (target = b.exponent ∧ Rounds (y * 2 ^ e / 2 ^ b.exponent) b.mantissa ∨
        target = b.exponent - 1 ∧ b.mantissa = 2 ^ 52 ∧
          Rounds (y * 2 ^ e / 2 ^ (b.exponent - 1)) (2 ^ 53)) := by
  intro target
  have hleast := h.least
  have hunit : (0 : ℚ) < 2 ^ b.exponent := by positivity
  -- the first bit of the mantissa is the first bit of the number
  have hless : y * 2 ^ e < 2 ^ ((m.log2 : Int) + 1 + e) := by
    have hlog : (m : ℚ) + 1 ≤ 2 ^ (m.log2 + 1) := by exact_mod_cast Nat.lt_log2_self
    rw [zpow_add₀ two_ne_zero]
    exact mul_lt_mul_of_pos_right (by exact_mod_cast hm.2.trans_le hlog) (by positivity)
  have hmore (hpos : m ≠ 0) : 2 ^ ((m.log2 : Int) + e) ≤ y * 2 ^ e := by
    have hlog : (2 : ℚ) ^ m.log2 ≤ m := by exact_mod_cast Nat.log2_self_le hpos
    rw [zpow_add₀ two_ne_zero]
    exact mul_le_mul_of_nonneg_right (by exact_mod_cast hlog.trans hm.1) (by positivity)
  have hzero (hm : m = 0) : m.log2 = 0 := by rw [hm]; rfl
  have hfine : 2 ^ 52 ≤ m → 52 ≤ m.log2 := fun hfull =>
    (Nat.le_log2 (by omega)).mpr hfull
  have hle : target ≤ b.exponent := by
    rcases eq_or_ne m 0 with hm0 | hm0
    · have := hzero hm0
      omega
    · have := (zpow_lt_zpow_iff_right₀ one_lt_two).mp ((hmore hm0).trans_lt (h.lt_of_covers hv))
      omega
  refine ⟨by omega, ?_⟩
  rcases eq_or_lt_of_le hleast with hsmall | hnormal
  · refine .inl ⟨by omega, ?_⟩
    have hbelow := h.below_eq (by omega)
    exact ⟨hbelow ▸ hv.low, hv.high, hbelow ▸ hv.inner⟩
  · have hge := (zpow_lt_zpow_iff_right₀ one_lt_two).mp ((h.gt_of_covers hv hnormal).trans hless)
    have hscale (k : Nat) : (2 : ℚ) ^ (b.exponent + k) / 2 ^ b.exponent = 2 ^ k := by
      rw [zpow_add₀ two_ne_zero, mul_div_cancel_left₀ _ hunit.ne', zpow_natCast]
    by_cases hsame : target = b.exponent
    · -- the number has as many bits before the cut as the double
      refine .inl ⟨hsame, ?_⟩
      have hm0 : m ≠ 0 := fun hm0 => by
        have := hzero hm0
        omega
      have hfirst : (2 : ℚ) ^ 52 ≤ y * 2 ^ e / 2 ^ b.exponent := by
        rw [← hscale, div_le_div_iff_of_pos_right hunit]
        exact (zpow_le_zpow_right₀ one_le_two (by omega)).trans (hmore hm0)
      by_cases hpower : b.mantissa = 2 ^ 52
      · refine ⟨?_, hv.high, fun hodd => ?_⟩
        · rw [hpower]
          norm_num at hfirst ⊢
          linarith
        · rw [hpower] at hodd
          norm_num at hodd
      · have hbelow := h.below_eq fun hnarrow => hpower hnarrow.1
        exact ⟨hbelow ▸ hv.low, hv.high, hbelow ▸ hv.inner⟩
    · -- the number has one bit less, so it is just below a power of two
      have htarget : target = b.exponent - 1 := by omega
      have hfirst : y * 2 ^ e / 2 ^ b.exponent < 2 ^ 52 := by
        rw [← hscale, div_lt_div_iff_of_pos_right hunit]
        exact hless.trans_le (zpow_le_zpow_right₀ one_le_two (by omega))
      have hlow := hv.low
      have hpower : b.mantissa = 2 ^ 52 := by
        by_contra hne
        rw [h.below_eq fun hnarrow => hne hnarrow.1] at hlow
        have hmantissa : (2 : ℚ) ^ 52 + 1 ≤ b.mantissa := by
          exact_mod_cast (h.full hnormal).lt_of_ne' hne
        linarith
      have hbelow : b.below = 1 / 4 := if_pos (h.narrow.mpr ⟨hpower, hnormal⟩)
      have hdouble : y * 2 ^ e / 2 ^ (b.exponent - 1) = 2 * (y * 2 ^ e / 2 ^ b.exponent) := by
        rw [zpow_sub₀ two_ne_zero, zpow_one]
        field_simp
      rw [hbelow, hpower] at hlow
      refine .inr ⟨htarget, hpower, ?_, ?_, fun hodd => ?_⟩
      · rw [hdouble]
        norm_num at hlow ⊢
        linarith
      · rw [hdouble]
        norm_num at hfirst ⊢
        linarith
      · norm_num at hodd

lemma shift_canonical :
    shiftToTargetExponent Format.binary64 b.mantissa b.exponent .exact =
      (⟨b.mantissa, false, false⟩, b.exponent) := by
  unfold shiftToTargetExponent shiftToExponent
  dsimp only
  rw [h.target_eq, sub_self, Int.toNat_zero, Nat.cast_zero, add_zero]
  rfl

/-- Rounding up to a power of two moves the mantissa by one bit. -/
lemma shift_power (hpower : b.mantissa = 2 ^ 52) :
    shiftToTargetExponent Format.binary64 (2 ^ 53) (b.exponent - 1) .exact =
      (⟨b.mantissa, false, false⟩, b.exponent) := by
  have hleast := h.least
  have htarget :
      max (((2 ^ 53 : Nat).log2 : Int) + (b.exponent - 1) - 52) (-1074) = b.exponent := by
    rw [Nat.log2_two_pow]
    omega
  rw [shiftToTargetExponent_eq _ _ (by omega), htarget, hpower, sub_sub_cancel]
  rfl

/-- A number is rounded to the double among whose numbers it is. -/
theorem roundWithAccuracy_eq {m : Nat} {e : Int} {accuracy : Accuracy} {y : ℚ}
    (hy : Represents (.ofMantissaAndAccuracy m accuracy) y) (fine : e ≤ -1074 ∨ 2 ^ 52 ≤ m)
    (hv : b.Covers (y * 2 ^ e)) (s : Sign) :
    roundWithAccuracy Format.binary64 s m e accuracy = .finite s b.mantissa b.exponent h.pos := by
  obtain ⟨hle, hcut⟩ := h.cut hy.mantissa_le fine hv
  have hfirst := shiftToTargetExponent_eq m accuracy hle
  generalize max ((m.log2 : Int) + e - 52) (-1074) = target at hle hcut hfirst
  have hshifted := hy.shiftRight (target - e).toNat
  have hscale : y / 2 ^ (target - e).toNat = y * 2 ^ e / 2 ^ target := by
    rw [← zpow_natCast, Int.toNat_of_nonneg (sub_nonneg.mpr hle), zpow_sub₀ two_ne_zero,
      div_div_eq_mul_div]
  rw [hscale] at hshifted
  rcases hcut with ⟨rfl, hrounds⟩ | ⟨rfl, hpower, hrounds⟩
  · exact roundWithAccuracy_of_shifts hfirst (hshifted.roundedMantissa_eq hrounds)
      h.shift_canonical h.pos
  · exact roundWithAccuracy_of_shifts hfirst (hshifted.roundedMantissa_eq hrounds)
      (h.shift_power hpower) h.pos

/-- So is an exact product. -/
lemma mul_eq {m n : Nat} {e f : Int} (hm : 0 < m) (hn : 0 < n) (fine : 2 ^ 52 ≤ m * n)
    (hv : b.Covers (m * 2 ^ e * (n * 2 ^ f))) :
    UnpackedFloat.mul Format.binary64 (.finite .positive m e hm) (.finite .positive n f hn) =
      .finite .positive b.mantissa b.exponent h.pos := by
  refine h.roundWithAccuracy_eq (represents_exact (m * n)) (.inr fine) ?_ .positive
  rw [zpow_add₀ two_ne_zero, Nat.cast_mul, mul_mul_mul_comm]
  exact hv

/-- So is a quotient. -/
lemma div_eq {m n : Nat} {e f : Int} (hm : 0 < m) (hn : 0 < n)
    (hv : b.Covers (m * 2 ^ e / (n * 2 ^ f))) :
    UnpackedFloat.div Format.binary64 (.finite .positive m e hm) (.finite .positive n f hn) =
      .finite .positive b.mantissa b.exponent h.pos := by
  -- the numerator gets so many bits that those of the quotient fill a mantissa
  have htarget : Format.binary64.targetExponent (totalExponent m e - totalExponent n f) =
      max (m.log2 + e - (n.log2 + f) - 53) (-1074) := by
    change max ((m.log2 : Int) + 1 + e - ((n.log2 : Int) + 1 + f) - 53) (-1074) = _
    congr 1
    ring
  change roundWithAccuracy Format.binary64 .positive (m <<< _ / n) _
    (accuracyOfFraction (m <<< _ % n) n) = _
  rw [htarget]
  generalize hcut : min (e - f) (max ((m.log2 : Int) + e - (n.log2 + f) - 53) (-1074)) = cut
  obtain ⟨k, hk⟩ : ∃ k : Nat, e - f = cut + k := ⟨(e - f - cut).toNat, by omega⟩
  rw [hk, add_sub_cancel_left, Int.toNat_natCast, Nat.shiftLeft_eq]
  refine h.roundWithAccuracy_eq (represents_fraction hn) ?_ ?_ .positive
  · by_cases hsmall : cut ≤ -1074
    · exact .inl hsmall
    · refine .inr ((Nat.le_div_iff_mul_le hn).mpr ?_)
      calc 2 ^ 52 * n ≤ 2 ^ 52 * 2 ^ (n.log2 + 1) := Nat.mul_le_mul_left _ Nat.lt_log2_self.le
        _ = 2 ^ (n.log2 + 53) := by rw [← pow_add]; congr 1; omega
        _ ≤ 2 ^ (m.log2 + k) := Nat.pow_le_pow_right two_pos (by omega)
        _ = 2 ^ m.log2 * 2 ^ k := pow_add _ _ _
        _ ≤ m * 2 ^ k := Nat.mul_le_mul_right _ (Nat.log2_self_le hm.ne')
  · have hvalue : ((m * 2 ^ k : Nat) : ℚ) / n * 2 ^ cut = m * 2 ^ e / (n * 2 ^ f) := by
      rw [mul_div_mul_comm, ← zpow_sub₀ two_ne_zero, hk, zpow_add₀ two_ne_zero, zpow_natCast]
      push_cast
      ring
    rw [hvalue]
    exact hv

/-- So is a number whose mantissa may have few bits. -/
lemma round_eq {m : Nat} {e : Int} (hm : 0 < m) (hv : b.Covers (m * 2 ^ e)) (s : Sign) :
    UnpackedFloat.round Format.binary64 s m e = .finite s b.mantissa b.exponent h.pos := by
  unfold UnpackedFloat.round
  dsimp only
  rw [targetExponent_eq, decreaseExponent_eq]
  generalize hk : (e - max ((m.log2 : Int) + e - 52) (-1074)).toNat = k
  refine h.roundWithAccuracy_eq (represents_exact (m * 2 ^ k)) ?_ ?_ s
  · by_cases hsmall : e - k ≤ -1074
    · exact .inl hsmall
    · refine .inr ?_
      calc 2 ^ 52 ≤ 2 ^ (m.log2 + k) := Nat.pow_le_pow_right two_pos (by omega)
        _ = 2 ^ m.log2 * 2 ^ k := pow_add _ _ _
        _ ≤ m * 2 ^ k := Nat.mul_le_mul_right _ (Nat.log2_self_le hm.ne')
  · rw [zpow_sub₀ two_ne_zero, zpow_natCast, Nat.cast_mul, Nat.cast_pow, Nat.cast_ofNat, mul_assoc,
      mul_div_cancel₀ _ (by positivity)]
    exact hv

/-- So is a sum of positive doubles. -/
lemma add_eq {m n : Nat} {e f : Int} (hm : 0 < m) (hn : 0 < n)
    (hv : b.Covers (m * 2 ^ e + n * 2 ^ f)) :
    UnpackedFloat.add Format.binary64 (.finite .positive m e hm) (.finite .positive n f hn) =
      .finite .positive b.mantissa b.exponent h.pos := by
  have hshifted (k : Nat) {e' target : Int} (hle : target ≤ e') :
      ((k <<< (e' - target).toNat : Nat) : ℚ) * 2 ^ target = k * 2 ^ e' := by
    rw [Nat.shiftLeft_eq, Nat.cast_mul, Nat.cast_pow, Nat.cast_ofNat, mul_assoc, ← zpow_natCast,
      ← zpow_add₀ two_ne_zero]
    congr 2
    omega
  have hsum : b.Covers ((m <<< (e - min e f).toNat + n <<< (f - min e f).toNat : Nat) *
      2 ^ min e f) := by
    rw [Nat.cast_add, add_mul, hshifted m (min_le_left e f), hshifted n (min_le_right e f)]
    exact hv
  have hpos : 0 < m <<< (e - min e f).toNat + n <<< (f - min e f).toNat := by
    rw [Nat.shiftLeft_eq]
    positivity
  change UnpackedFloat.normalize Format.binary64
    (m <<< (e - min e f).toNat + n <<< (f - min e f).toNat : Nat) (min e f) .positive = _
  unfold UnpackedFloat.normalize
  rw [Int.compare_eq_gt.mpr (Int.natCast_pos.mpr hpos)]
  exact h.round_eq hpos hsum .positive

end Binary.Canonical

/-! ### Numbers that are doubles -/

/-- The double `k · 2 ^ j` of a `k` with at most 53 bits. -/
def Binary.normal (k : Nat) (j : Int) : Binary :=
  ⟨k * 2 ^ (52 - k.log2), k.log2 - 52 + j, k * 2 ^ (52 - k.log2) == 2 ^ 52⟩

namespace Binary

variable {k : Nat} {j : Int}

lemma log2_le (hk : 0 < k) (small : k < 2 ^ 53) : k.log2 ≤ 52 :=
  Nat.le_of_lt_succ ((Nat.log2_lt hk.ne').mpr small)

/-- The mantissa has its first bit. -/
lemma normal_full (hk : 0 < k) (small : k < 2 ^ 53) :
    2 ^ 52 ≤ (normal k j).mantissa ∧ (normal k j).mantissa < 2 ^ 53 := by
  have hlog := log2_le hk small
  constructor
  · calc 2 ^ 52 = 2 ^ k.log2 * 2 ^ (52 - k.log2) := by rw [← pow_add, Nat.add_sub_cancel' hlog]
      _ ≤ k * 2 ^ (52 - k.log2) := Nat.mul_le_mul_right _ (Nat.log2_self_le hk.ne')
  · calc k * 2 ^ (52 - k.log2) < 2 ^ (k.log2 + 1) * 2 ^ (52 - k.log2) :=
          Nat.mul_lt_mul_of_pos_right Nat.lt_log2_self (by positivity)
      _ = 2 ^ 53 := by rw [← pow_add]; congr 1; omega

lemma normal_canonical (hk : 0 < k) (small : k < 2 ^ 53) (hlow : -1021 ≤ j) (hhigh : j ≤ 971) :
    (normal k j).Canonical := by
  have hlog := log2_le hk small
  obtain ⟨hfull, hlt⟩ := normal_full (j := j) hk small
  refine ⟨hfull.trans_lt' (by positivity), hlt, ?_, ?_, fun _ => hfull, ?_⟩
  · change -1074 ≤ (k.log2 : Int) - 52 + j
    omega
  · change (k.log2 : Int) - 52 + j ≤ 971
    omega
  · have hnormal : -1074 < (k.log2 : Int) - 52 + j := by omega
    simp [normal, hnormal]

lemma normal_value (hk : 0 < k) (small : k < 2 ^ 53) :
    ((normal k j).mantissa : ℚ) * 2 ^ (normal k j).exponent = k * 2 ^ j := by
  have hlog := log2_le hk small
  have hexponent : (k.log2 : Int) - 52 + j = j - (52 - k.log2 : Nat) := by omega
  unfold normal
  dsimp only
  rw [hexponent, zpow_sub₀ two_ne_zero, zpow_natCast, Nat.cast_mul, Nat.cast_pow, Nat.cast_ofNat,
    mul_assoc, mul_div_cancel₀ _ (by positivity)]

lemma covers_self (b : Binary) : b.Covers (b.mantissa * 2 ^ b.exponent) := by
  have hbelow := b.below_pos
  have hself : (b.mantissa : ℚ) * 2 ^ b.exponent / 2 ^ b.exponent = b.mantissa :=
    mul_div_cancel_right₀ _ (by positivity)
  refine ⟨?_, ?_, fun _ => ?_⟩ <;> rw [hself]
  · linarith
  · linarith
  · constructor <;> linarith

end Binary

lemma ofNat_eq {k : Nat} (hk : 0 < k) (small : k < 2 ^ 53) :
    Float.Model.ofNat k = (FloatClass.finite false (.normal k 0)).toFloat.toModel := by
  have hb := Binary.normal_canonical (j := 0) hk small (by norm_num) (by norm_num)
  have hvalue := Binary.normal_value (j := 0) hk small
  have hcovers := Binary.covers_self (.normal k 0)
  rw [hvalue] at hcovers
  rw [toFloat_finite hb]
  unfold Float.Model.ofNat UnpackedFloat.ofNat UnpackedFloat.ofInt UnpackedFloat.normalize
  rw [Int.compare_eq_gt.mpr (by omega)]
  exact congrArg Float.Model.pack (hb.round_eq hk hcovers .positive)

lemma toFloat_eq {k : Nat} (hk : 0 < k) (small : k < 2 ^ 53) :
    k.toUInt64.toFloat = (FloatClass.finite false (.normal k 0)).toFloat := by
  have hsmall : k.toUInt64.toNat = k := Nat.mod_eq_of_lt (by omega)
  unfold UInt64.toFloat Float.Model.ofUInt64 UnpackedFloat.ofUInt64
  rw [hsmall]
  exact congrArg Float.ofModel (ofNat_eq hk small)

/-- The powers of ten that are doubles. -/
lemma power_eq : ∀ e : Fin 23,
    Float.exactlyRepresentablePowersOfTen[e] =
      (FloatClass.finite false (.normal (5 ^ e.val) e.val)).toFloat := by
  decide

end ChatEngine.Decimal
