import ChatEngine.Proofs.DecimalDoubles

/-!
# Shortest decimals

The shortest text of a double reads back as that double. Seventeen digits are always enough, so
`Binary.shortest` finds a decimal that rounds to the double.
-/

namespace ChatEngine.Decimal

/-! ### The place of the point -/

lemma pow_le_of_length {n : Nat} (hn : 0 < n) : 10 ^ ((Nat.toDigits 10 n).length - 1) ≤ n := by
  by_contra! hlt
  rcases Nat.eq_zero_or_pos ((Nat.toDigits 10 n).length - 1) with hzero | hpos
  · rw [hzero, pow_zero] at hlt
    omega
  · have := (Nat.length_toDigits_le_iff (by norm_num) hpos).mpr hlt
    omega

lemma lt_pow_length (n : Nat) : n < 10 ^ (Nat.toDigits 10 n).length :=
  (Nat.length_toDigits_le_iff (by norm_num) Nat.length_toDigits_pos).mp (le_refl _)

namespace Binary

variable {b : Binary}

lemma toRat_value (b : Binary) : b.value.toRat = b.mantissa * 2 ^ b.exponent := by
  rw [value, Fraction.toRat_scaled, Nat.cast_ofNat]

/-- The digit before which the point position counts is not zero. -/
lemma pow_pointPosition_le (hpos : 0 < b.mantissa) :
    (10 : ℚ) ^ (b.pointPosition - 1) ≤ b.mantissa * 2 ^ b.exponent := by
  have hnum : 0 < b.value.num := Fraction.num_scaled_pos two_pos hpos _
  have hden : 0 < b.value.den := Fraction.den_scaled_pos two_pos _ _
  rw [← toRat_value, Fraction.toRat]
  unfold pointPosition
  dsimp only
  generalize b.value = v at hnum hden ⊢
  split
  · next hlarge =>
    have hquotient : 0 < v.num / v.den := Nat.div_pos hlarge hden
    have hlength := Nat.length_toDigits_pos (b := 10) (n := v.num / v.den)
    have hexponent : ((Nat.toDigits 10 (v.num / v.den)).length : Int) - 1 =
        ((Nat.toDigits 10 (v.num / v.den)).length - 1 : Nat) := by omega
    rw [hexponent, zpow_natCast]
    calc (10 : ℚ) ^ ((Nat.toDigits 10 (v.num / v.den)).length - 1) ≤ (v.num / v.den : Nat) := by
          exact_mod_cast pow_le_of_length hquotient
      _ ≤ v.num / v.den := Nat.cast_div_le
  · next hsmall =>
    have hlength := lt_pow_length (v.den / v.num)
    have hpos := Nat.length_toDigits_pos (b := 10) (n := v.den / v.num)
    generalize (Nat.toDigits 10 (v.den / v.num)).length = digits at hlength hpos ⊢
    have hbound (k : Nat) (hk : v.den ≤ v.num * 10 ^ k) :
        (10 : ℚ) ^ (-(k : Int)) ≤ v.num / v.den := by
      rw [le_div_iff₀ (by exact_mod_cast hden), zpow_neg, zpow_natCast,
        inv_mul_le_iff₀ (by positivity), mul_comm]
      exact_mod_cast hk
    split
    · next hless =>
      have hdigits : v.den < 10 ^ digits * v.num := (Nat.div_lt_iff_lt_mul hnum).mp hlength
      rw [show -(digits : Int) + 1 - 1 = -(digits : Int) by ring]
      exact hbound digits (by rw [mul_comm]; exact hdigits.le)
    · next hmore =>
      obtain ⟨k, rfl⟩ : ∃ k, digits = k + 1 := ⟨digits - 1, by omega⟩
      rw [show -(-((k + 1 : Nat) : Int) + 1) = k by omega, Int.toNat_natCast] at hmore
      rw [show -((k + 1 : Nat) : Int) + 1 + 1 - 1 = -(k : Int) by omega]
      exact hbound k (not_lt.mp hmore)

/-! ### Seventeen digits -/

end Binary

/-- A rounded quotient is not farther than a half from the quotient. -/
lemma roundDiv_near (num : Nat) {den : Nat} (hden : 0 < den) :
    |(roundDiv num den : ℚ) - num / den| ≤ 1 / 2 := by
  have hpos : (0 : ℚ) < den := by exact_mod_cast hden
  have hclose : 2 * num ≤ (2 * roundDiv num den + 1) * den ∧
      2 * roundDiv num den * den ≤ 2 * num + den := by
    have hsplit := Nat.div_add_mod num den
    have hlt := Nat.mod_lt num hden
    unfold roundDiv
    dsimp only
    generalize num / den = q at *
    generalize num % den = r at *
    subst hsplit
    split_ifs <;> constructor <;> nlinarith
  obtain ⟨hlow, hhigh⟩ := hclose
  have hlow' : (2 * num : ℚ) ≤ (2 * roundDiv num den + 1) * den := by exact_mod_cast hlow
  have hhigh' : (2 * roundDiv num den * den : ℚ) ≤ 2 * num + den := by exact_mod_cast hhigh
  have hle : (num : ℚ) / den ≤ roundDiv num den + 1 / 2 := by
    rw [div_le_iff₀ hpos]
    linarith
  have hge : (roundDiv num den : ℚ) - 1 / 2 ≤ num / den := by
    rw [le_div_iff₀ hpos]
    linarith
  rw [abs_le]
  constructor <;> linarith

namespace Binary
variable {b : Binary}

/-- A number that is nearer to a double than half of the distance to its neighbours rounds to it. -/
lemma covers_of_near {v : ℚ} (h : |v / 2 ^ b.exponent - b.mantissa| < b.below) : b.Covers v := by
  have hbelow := b.below_le
  obtain ⟨hlow, hhigh⟩ := abs_lt.mp h
  exact ⟨by linarith, by linarith, fun _ => ⟨by linarith, by linarith⟩⟩

lemma roundsTo_of_onGrid? {place : Int} {d : Digits} (h : b.onGrid? place = some d) :
    b.roundsTo d.digits d.place = true := by
  unfold onGrid? at h
  dsimp only at h
  generalize roundDiv _ _ = near at h
  generalize (if near = _ then near + 1 else near - 1) = far at h
  split at h
  · next hnear =>
    cases h
    exact hnear
  · split at h
    · next hfar =>
      cases h
      exact hfar
    · cases h

/-- Seventeen digits are enough. -/
lemma isSome_onGrid? (h : b.Canonical) : (b.onGrid? (b.pointPosition - 17)).isSome = true := by
  have hpoint := pow_pointPosition_le h.pos
  have hunit : (0 : ℚ) < 2 ^ b.exponent := by positivity
  have hten : (0 : ℚ) < 10 ^ (b.pointPosition - 17) := by positivity
  unfold onGrid?
  dsimp only
  generalize hnear : roundDiv _ _ = near
  have hclose :
      |(near : ℚ) - b.mantissa * 2 ^ b.exponent / 10 ^ (b.pointPosition - 17)| ≤ 1 / 2 := by
    have hden : 0 < b.value.den * (Fraction.scaled 1 10 (b.pointPosition - 17)).num :=
      Nat.mul_pos (Fraction.den_scaled_pos two_pos _ _)
        (Fraction.num_scaled_pos (by norm_num) Nat.one_pos _)
    have hround := roundDiv_near
      (b.value.num * (Fraction.scaled 1 10 (b.pointPosition - 17)).den) hden
    rw [hnear, Fraction.div_toRat, toRat_value, Fraction.toRat_scaled, Nat.cast_one, one_mul,
      Nat.cast_ofNat] at hround
    exact hround
  have hcovers : b.Covers (near * 10 ^ (b.pointPosition - 17)) := by
    refine covers_of_near ?_
    -- the digits are much closer together than the doubles
    have hsplit : (10 : ℚ) ^ (b.pointPosition - 1) = 10 ^ (b.pointPosition - 17) * 10 ^ 16 := by
      rw [← zpow_natCast, ← zpow_add₀ (by norm_num)]
      congr 1
      ring
    have hspacing : (10 : ℚ) ^ (b.pointPosition - 17) / 2 ^ b.exponent ≤ b.mantissa / 10 ^ 16 := by
      rw [div_le_div_iff₀ hunit (by positivity), ← hsplit]
      exact hpoint
    have hwide : (b.mantissa : ℚ) / 10 ^ 16 / 2 < b.below := by
      unfold below
      split
      · next hnarrow =>
        rw [(h.narrow.mp hnarrow).1]
        norm_num
      · have hlt : (b.mantissa : ℚ) < 2 ^ 53 := by exact_mod_cast h.lt
        linarith
    have hscaled : (near : ℚ) * 10 ^ (b.pointPosition - 17) / 2 ^ b.exponent - b.mantissa =
        (near - b.mantissa * 2 ^ b.exponent / 10 ^ (b.pointPosition - 17)) *
          (10 ^ (b.pointPosition - 17) / 2 ^ b.exponent) := by
      field_simp
    rw [hscaled, abs_mul, abs_of_pos (div_pos hten hunit)]
    calc _ ≤ 1 / 2 * (b.mantissa / 10 ^ 16 : ℚ) :=
          mul_le_mul hclose hspacing (by positivity) (by norm_num)
      _ < b.below := by linarith
  rw [if_pos ((roundsTo_iff h.pos near _).mpr hcovers)]
  rfl

/-- The shortest decimal rounds to the double. -/
theorem roundsTo_shortest (h : b.Canonical) :
    b.roundsTo b.shortest.digits b.shortest.place = true := by
  have hfound : ((List.range 17).findSome? fun n =>
      b.onGrid? (b.pointPosition - (n + 1 : Nat))).isSome = true :=
    List.findSome?_isSome_iff.mpr ⟨16, by decide, isSome_onGrid? h⟩
  obtain ⟨d, hd⟩ := Option.isSome_iff_exists.mp hfound
  obtain ⟨n, -, hn⟩ := List.exists_of_findSome?_eq_some hd
  have hshortest : b.shortest = d := by
    unfold shortest
    dsimp only
    rw [hd, Option.getD_some]
  rw [hshortest]
  exact roundsTo_of_onGrid? hn

end Binary

end ChatEngine.Decimal
