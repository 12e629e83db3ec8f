import ChatEngine.Proofs.NearestDoubles

/-!
# Decimals as doubles

Reading decimal numbers as doubles: digits with an exponent are read as the double among whose
numbers their value is (`ofDigits_eq`).
-/

namespace ChatEngine.Decimal
open Float.Model Float.Model.UnpackedFloat

/-! ### Decimal numbers -/

namespace Binary.Canonical

variable {b : Binary} (h : b.Canonical) {m : Nat} {e : Int}
include h

lemma unpack_toFloat :
    (FloatClass.finite false b).toFloat.toModel.unpack =
      .finite .positive b.mantissa b.exponent h.pos := by
  rw [toFloat_finite h]
  exact h.unpack_pack .positive

/-- A number that rounds to a double is not so large or so small that it is not computed. -/
lemma bounds (hm : 0 < m) (hv : b.Covers (m * 10 ^ e)) : e < 1024 ∧ -1076 - m.log2 < e := by
  obtain ⟨hlow, hhigh⟩ := h.range_of_covers hv
  have hone : (1 : ℚ) ≤ m := by exact_mod_cast hm
  have hlog : (m : ℚ) < 2 ^ (m.log2 + 1) := by exact_mod_cast Nat.lt_log2_self
  constructor
  · by_contra! hlarge
    obtain ⟨k, rfl⟩ := Int.eq_ofNat_of_zero_le (by omega : 0 ≤ e)
    have hpow : (2 : ℚ) ^ (1024 : Int) ≤ m * 10 ^ (k : Int) :=
      calc (2 : ℚ) ^ (1024 : Int) ≤ 2 ^ (k : Int) := zpow_le_zpow_right₀ one_le_two hlarge
        _ ≤ 10 ^ (k : Int) := by
          rw [zpow_natCast, zpow_natCast]
          exact pow_le_pow_left₀ two_pos.le (by norm_num) k
        _ ≤ m * 10 ^ (k : Int) := le_mul_of_one_le_left (by positivity) hone
    exact hhigh.not_ge hpow
  · by_contra! hsmall
    obtain ⟨k, rfl⟩ : ∃ k : Nat, e = -(k : Int) := ⟨(-e).toNat, by omega⟩
    have hpow : (m : ℚ) * 10 ^ (-(k : Int)) < 2 ^ (-1075 : Int) :=
      calc (m : ℚ) * 10 ^ (-(k : Int)) < 2 ^ (m.log2 + 1) * 10 ^ (-(k : Int)) :=
            mul_lt_mul_of_pos_right hlog (by positivity)
        _ ≤ 2 ^ (m.log2 + 1) * 2 ^ (-(k : Int)) := by
          rw [zpow_neg, zpow_neg, zpow_natCast, zpow_natCast]
          gcongr
          norm_num
        _ = 2 ^ ((m.log2 + 1 : Nat) + -(k : Int)) := by rw [zpow_add₀ two_ne_zero, zpow_natCast]
        _ ≤ 2 ^ (-1075 : Int) := zpow_le_zpow_right₀ one_le_two (by omega)
    exact hlow.not_gt hpow

lemma model_eq (hm : 0 < m) (hv : b.Covers (m * 10 ^ e)) :
    Float.Model.ofScientific m e = (FloatClass.finite false b).toFloat.toModel := by
  obtain ⟨hhigh, hlow⟩ := h.bounds hm hv
  rw [toFloat_finite h]
  refine congrArg Float.Model.pack ?_
  unfold UnpackedFloat.ofScientific
  rw [dif_neg hm.ne', if_neg (by norm_num; omega), if_neg (by norm_num; omega)]
  split
  · next he =>
    obtain ⟨k, rfl⟩ := Int.eq_ofNat_of_zero_le he
    have hbits : Format.binary64.mantissaBits = 53 := rfl
    refine h.mul_eq _ _ ?_ ?_
    · rw [hbits, Nat.shiftLeft_eq, Int.toNat_natCast]
      calc 2 ^ 52 ≤ m * 2 ^ 53 := by omega
        _ ≤ m * 2 ^ 53 * 10 ^ k := Nat.le_mul_of_pos_right _ (by positivity)
    · rw [hbits, Nat.shiftLeft_eq, Int.toNat_natCast, zpow_neg, zpow_natCast, zpow_zero, mul_one,
        Nat.cast_mul, Nat.cast_pow, Nat.cast_ofNat, mul_inv_cancel_right₀ (by positivity)]
      push_cast
      exact hv
  · next he =>
    obtain ⟨k, rfl⟩ : ∃ k : Nat, e = -(k : Int) := ⟨(-e).toNat, by omega⟩
    refine h.div_eq _ _ ?_
    rw [neg_neg, Int.toNat_natCast, zpow_zero, mul_one, mul_one]
    push_cast
    rw [div_eq_mul_inv, ← zpow_natCast, ← zpow_neg]
    exact hv

variable {v w : Binary} (hv : v.Canonical) (hw : w.Canonical)
include hv hw

lemma mul_toFloat (fine : 2 ^ 52 ≤ v.mantissa * w.mantissa)
    (hcovers : b.Covers (v.mantissa * 2 ^ v.exponent * (w.mantissa * 2 ^ w.exponent))) :
    (FloatClass.finite false v).toFloat * (FloatClass.finite false w).toFloat =
      (FloatClass.finite false b).toFloat := by
  change Float.ofModel (Float.Model.pack (UnpackedFloat.mul _ (Float.toModel _).unpack
    (Float.toModel _).unpack)) = _
  rw [hv.unpack_toFloat, hw.unpack_toFloat, h.mul_eq _ _ fine hcovers, toFloat_finite h]
  rfl

lemma div_toFloat
    (hcovers : b.Covers (v.mantissa * 2 ^ v.exponent / (w.mantissa * 2 ^ w.exponent))) :
    (FloatClass.finite false v).toFloat / (FloatClass.finite false w).toFloat =
      (FloatClass.finite false b).toFloat := by
  change Float.ofModel (Float.Model.pack (UnpackedFloat.div _ (Float.toModel _).unpack
    (Float.toModel _).unpack)) = _
  rw [hv.unpack_toFloat, hw.unpack_toFloat, h.div_eq _ _ hcovers, toFloat_finite h]
  rfl

omit hv hw

/-- A decimal number is read as the double among whose numbers it is. -/
theorem ofScientific_eq (hm : 0 < m) (hcovers : b.Covers (m * 10 ^ e)) :
    Float.ofScientific m (e < 0) e.natAbs = (FloatClass.finite false b).toFloat := by
  unfold Float.ofScientific
  split
  · next hfast =>
    -- both numbers are doubles, so there is a single rounding
    obtain ⟨hsmall, he⟩ := hfast
    have hfive : 5 ^ e.natAbs < 2 ^ 53 :=
      (Nat.pow_le_pow_right (by norm_num) he).trans_lt (by norm_num)
    have hwhole := normal_canonical (j := 0) hm hsmall (by norm_num) (by norm_num)
    have hpower := normal_canonical (j := e.natAbs) (by positivity) hfive (by omega) (by omega)
    have hwholeValue := normal_value (j := 0) hm hsmall
    have hpowerValue := normal_value (j := e.natAbs) (by positivity) hfive
    have hten : (((5 ^ e.natAbs : Nat) : ℚ)) * 2 ^ (e.natAbs : Int) = 10 ^ (e.natAbs : Int) := by
      rw [zpow_natCast, zpow_natCast, Nat.cast_pow, Nat.cast_ofNat, ← mul_pow]
      norm_num
    rw [zpow_zero, mul_one] at hwholeValue
    rw [hten] at hpowerValue
    have htable := power_eq ⟨e.natAbs, by omega⟩
    dsimp only [Fin.getElem_fin] at htable ⊢
    rw [htable, toFloat_eq hm hsmall]
    split
    · next hnegative =>
      refine h.div_toFloat hwhole hpower ?_
      have hexponent : -(e.natAbs : Int) = e := by
        have := of_decide_eq_true hnegative
        omega
      rw [hwholeValue, hpowerValue, div_eq_mul_inv, ← zpow_neg, hexponent]
      exact hcovers
    · next hnegative =>
      refine h.mul_toFloat hwhole hpower ?_ ?_
      · exact (normal_full hm hsmall).1.trans (Nat.le_mul_of_pos_right _ hpower.pos)
      · have hexponent : (e.natAbs : Int) = e := by
          have : ¬ e < 0 := fun hlt => hnegative (decide_eq_true hlt)
          omega
        rw [hwholeValue, hpowerValue, hexponent]
        exact hcovers
  · have hsign : (if e < 0 then Int.negOfNat e.natAbs else Int.ofNat e.natAbs) = e := by
      split
      · rw [Int.negOfNat_eq]
        change -(e.natAbs : Int) = e
        omega
      · change (e.natAbs : Int) = e
        omega
    simp only [decide_eq_true_eq]
    rw [hsign, h.model_eq hm hcovers]

end Binary.Canonical

/-! ### Digits -/

lemma digitsValue_eq (cs : List Char) : digitsValue cs = Nat.ofDigitChars 10 cs 0 := rfl

lemma digitsValue_append (cs ds : List Char) :
    digitsValue (cs ++ ds) = digitsValue cs * 10 ^ ds.length + digitsValue ds := by
  rw [digitsValue_eq, Nat.ofDigitChars_append, Nat.ofDigitChars_eq_ofDigitChars_zero, mul_comm]
  rfl

lemma digitsValue_cons (c : Char) (cs : List Char) :
    digitsValue (c :: cs) = (c.toNat - 48) * 10 ^ cs.length + digitsValue cs :=
  (digitsValue_append [c] cs).trans (by simp [digitsValue])

lemma digitsValue_zeros (n : Nat) : digitsValue (List.replicate n '0') = 0 := by
  rw [digitsValue_eq, Nat.ofDigitChars_replicate_zero, Nat.mul_zero]

lemma digitsValue_dropZeros (cs : List Char) :
    digitsValue (cs.dropWhile (· == '0')) = digitsValue cs := by
  induction cs with
  | nil => rfl
  | cons c cs ih =>
    by_cases hc : c = '0'
    · subst hc
      rw [List.dropWhile_cons_of_pos rfl, ih, digitsValue_cons]
      simp
    · rw [List.dropWhile_cons_of_neg (by simpa using hc)]

lemma digitsValue_lt {cs : List Char} (h : ∀ c ∈ cs, c.isDigit = true) :
    digitsValue cs < 10 ^ cs.length := by
  induction cs with
  | nil => exact Nat.one_pos
  | cons c cs ih =>
    obtain ⟨hc, hcs⟩ := List.forall_mem_cons.mp h
    have hdigit : c.toNat - 48 ≤ 9 := by
      rw [Char.isDigit_iff_toNat] at hc
      have hnine : '9'.toNat = 57 := rfl
      omega
    have hrest := ih hcs
    have hfirst : (c.toNat - 48) * 10 ^ cs.length ≤ 9 * 10 ^ cs.length :=
      Nat.mul_le_mul_right _ hdigit
    rw [digitsValue_cons, List.length_cons, pow_succ]
    omega

/-- The first digit other than zero counts. -/
lemma le_digitsValue {c : Char} {cs : List Char} (hc : c.isDigit = true) (hne : c ≠ '0') :
    10 ^ cs.length ≤ digitsValue (c :: cs) := by
  have hdigit : 1 ≤ c.toNat - 48 := by
    rw [Char.isDigit_iff_toNat] at hc
    have hzero : '0'.toNat = 48 := rfl
    have : c.toNat ≠ '0'.toNat := fun heq => hne (Char.toNat_inj.mp heq)
    omega
  rw [digitsValue_cons]
  exact (Nat.le_mul_of_pos_left _ hdigit).trans (Nat.le_add_right _ _)

variable {digits : List Char} {exponent : Int}

/-- The digits from the first one other than zero on. -/
lemma dropZeros_cases (hdigits : ∀ c ∈ digits, c.isDigit = true) :
    digits.dropWhile (· == '0') = [] ∨
      ∃ c cs, digits.dropWhile (· == '0') = c :: cs ∧ 10 ^ cs.length ≤ digitsValue digits ∧
        digitsValue digits < 10 ^ (cs.length + 1) := by
  have hmem : ∀ c ∈ digits.dropWhile (· == '0'), c.isDigit = true := fun c hc =>
    hdigits c ((List.dropWhile_sublist _).subset hc)
  rw [← digitsValue_dropZeros]
  cases hcs : digits.dropWhile (· == '0') with
  | nil => exact .inl rfl
  | cons c cs =>
    rw [hcs] at hmem
    have hne : c ≠ '0' := by
      have hfirst := List.head?_dropWhile_not (· == '0') digits
      rw [hcs] at hfirst
      simpa using hfirst
    exact .inr ⟨c, cs, rfl, le_digitsValue (hmem c List.mem_cons_self) hne, digitsValue_lt hmem⟩

/-- Numbers of some hundred digits are beyond all doubles. -/
lemma two_pow_le : (2 : ℚ) ^ 1075 ≤ 10 ^ 400 :=
  calc (2 : ℚ) ^ 1075 ≤ 2 ^ (3 * 400) := pow_le_pow_right₀ one_le_two (by norm_num)
    _ = (2 ^ 3) ^ 400 := pow_mul _ _ _
    _ ≤ 10 ^ 400 := pow_le_pow_left₀ (by positivity) (by norm_num) _

/-- Digits with an exponent are read as the double among whose numbers their value is. -/
theorem ofDigits_eq {b : Binary} (h : b.Canonical) (hdigits : ∀ c ∈ digits, c.isDigit = true)
    (hcovers : b.Covers (digitsValue digits * 10 ^ exponent)) :
    ofDigits digits exponent = (FloatClass.finite false b).toFloat := by
  obtain ⟨hlow, hhigh⟩ := h.range_of_covers hcovers
  have hpos := h.pos_of_covers hcovers
  unfold ofDigits
  dsimp only
  rcases dropZeros_cases hdigits with hnil | ⟨c, cs, hcons, hge, hlt⟩
  · rw [← digitsValue_dropZeros, hnil] at hpos
    exact absurd hpos (lt_irrefl 0)
  · have hunit : (0 : ℚ) < 10 ^ exponent := by positivity
    have hten : (10 : ℚ) ≠ 0 := by norm_num
    have hlower : (10 : ℚ) ^ (exponent + cs.length) ≤ digitsValue digits * 10 ^ exponent := by
      rw [zpow_add₀ hten, zpow_natCast, mul_comm]
      exact mul_le_mul_of_nonneg_right (by exact_mod_cast hge) hunit.le
    have hupper : digitsValue digits * 10 ^ exponent <
        (10 : ℚ) ^ (exponent + (cs.length + 1 : Nat)) := by
      rw [zpow_add₀ hten, zpow_natCast, mul_comm]
      exact mul_lt_mul_of_pos_left (by exact_mod_cast hlt) hunit
    have hnotSmall : ¬ exponent + ((c :: cs).length : Int) < -400 := by
      intro hsmall
      have hpow : (10 : ℚ) ^ (exponent + (cs.length + 1 : Nat)) ≤ 10 ^ (-(400 : Nat) : Int) :=
        zpow_le_zpow_right₀ (by norm_num) (by rw [List.length_cons] at hsmall; omega)
      have hconst : (10 : ℚ) ^ (-(400 : Nat) : Int) ≤ 2 ^ (-(1075 : Nat) : Int) := by
        rw [zpow_neg, zpow_neg, zpow_natCast, zpow_natCast]
        exact inv_anti₀ (by positivity) two_pow_le
      exact hlow.not_gt (hupper.trans_le (hpow.trans hconst))
    have hnotLarge : ¬ 400 < exponent + ((c :: cs).length : Int) := by
      intro hlarge
      have hpow : (10 : ℚ) ^ ((400 : Nat) : Int) ≤ 10 ^ (exponent + cs.length) :=
        zpow_le_zpow_right₀ (by norm_num) (by rw [List.length_cons] at hlarge; omega)
      have hconst : (2 : ℚ) ^ ((1024 : Nat) : Int) ≤ 10 ^ ((400 : Nat) : Int) := by
        rw [zpow_natCast, zpow_natCast]
        exact (pow_le_pow_right₀ one_le_two (by norm_num)).trans two_pow_le
      exact hhigh.not_ge (hconst.trans (hpow.trans hlower))
    rw [if_neg (by simpa [hcons] using hnotSmall), hcons, if_neg hnotLarge, ← hcons,
      digitsValue_dropZeros]
    exact h.ofScientific_eq hpos hcovers

end ChatEngine.Decimal
