import ChatEngine.Decimal.Shortest
import Mathlib

/-!
# Bits of doubles

A double is what its bits say: put together again from what `classify` takes it apart into, it is
the same double (`FloatClass.toFloat_classify`). A mantissa and an exponent as a finite double has
them (`Binary.Canonical`) come back from its bits.
-/

namespace ChatEngine.Decimal
open Float.Model Float.Model.UnpackedFloat

/-! ### The parts of the bits -/

lemma toNat_packComponents (s : Sign) (e : BitVec 11) (m : BitVec 52) :
    (packComponents Format.binary64 s e m).toNat =
      s.toBitVec.toNat * 2 ^ 63 + e.toNat * 2 ^ 52 + m.toNat := by
  have hm := m.isLt
  have he := e.isLt
  unfold packComponents
  rw [BitVec.toNat_append, ← Nat.shiftLeft_add_eq_or_of_lt hm, BitVec.toNat_append,
    ← Nat.shiftLeft_add_eq_or_of_lt he, Nat.shiftLeft_eq, Nat.shiftLeft_eq, Nat.add_mul, mul_assoc,
    ← pow_add]

lemma toNat_unpackExponent (bits : UInt64) :
    (@unpackExponent Format.binary64 bits.toBitVec).toNat =
      bits.toNat / 2 ^ 52 % 2 ^ 11 := by
  change bits.toNat >>> 52 % 2 ^ 11 = _
  rw [Nat.shiftRight_eq_div_pow]

lemma toNat_unpackMantissa (bits : UInt64) :
    (@unpackMantissa Format.binary64 bits.toBitVec).toNat = bits.toNat % 2 ^ 52 := by
  change bits.toNat >>> 0 % 2 ^ 52 = _
  rw [Nat.shiftRight_zero]

def signOf (negative : Bool) : Sign := if negative then .negative else .positive

/-- Bits are those of the sign, of the exponent and of the mantissa. -/
lemma bits_eq {n : Nat} (hn : n < 2 ^ 64) :
    n = (signOf (n / 2 ^ 63 == 1)).toBitVec.toNat * 2 ^ 63 + n / 2 ^ 52 % 2 ^ 11 * 2 ^ 52 +
      n % 2 ^ 52 := by
  have hsign : (signOf (n / 2 ^ 63 == 1)).toBitVec.toNat = n / 2 ^ 63 := by
    rcases (by omega : n / 2 ^ 63 = 0 ∨ n / 2 ^ 63 = 1) with h | h
    · rw [h]
      rfl
    · rw [h]
      rfl
  omega

lemma eq_of_bits {x y : Float} (h : x.toBits.toNat = y.toBits.toNat) : x = y := by
  obtain ⟨⟨bits, valid⟩⟩ := x
  obtain ⟨⟨bits', valid'⟩⟩ := y
  obtain rfl : bits = bits' := UInt64.toNat_inj.mp h
  rfl

/-! ### Canonical values -/

/-- A mantissa and an exponent as a finite double other than zero has them. -/
structure Binary.Canonical (b : Binary) : Prop where
  pos : 0 < b.mantissa
  lt : b.mantissa < 2 ^ 53
  least : -1074 ≤ b.exponent
  greatest : b.exponent ≤ 971
  full : -1074 < b.exponent → 2 ^ 52 ≤ b.mantissa
  narrow : b.narrowBelow = true ↔ b.mantissa = 2 ^ 52 ∧ -1074 < b.exponent

namespace Binary.Canonical

variable {b : Binary} (h : b.Canonical)
include h

/-- What the bits have in the place of the exponent; it is zero if the value is too small for its
mantissa to have the first bit. -/
def biased (_ : b.Canonical) : Nat := if 2 ^ 52 ≤ b.mantissa then (b.exponent + 1075).toNat else 0

lemma biased_lt : h.biased < 2047 := by
  have hgreatest := h.greatest
  unfold biased
  split <;> omega

lemma pack_eq (s : Sign) :
    UnpackedFloat.pack Format.binary64 (.finite s b.mantissa b.exponent h.pos) =
      packComponents Format.binary64 s (BitVec.ofNat 11 h.biased) (BitVec.ofNat 52 b.mantissa) := by
  have hgreatest := h.greatest
  have hbias : (b.exponent + (Format.binary64.exponentBias : Int) +
      (Format.binary64.mantissaBitsWithoutImplicit : Int)).toNat = (b.exponent + 1075).toNat := by
    change (b.exponent + 1023 + 52).toNat = _
    omega
  have hfits : ¬ 2 ^ Format.binary64.exponentBits ≤ (b.exponent + 1075).toNat + 1 := by
    change ¬ 2048 ≤ _
    omega
  have hbits : b.mantissa.log2 + 1 = Format.binary64.mantissaBits ↔ 2 ^ 52 ≤ b.mantissa := by
    change b.mantissa.log2 + 1 = 53 ↔ _
    rw [← Nat.le_log2 h.pos.ne']
    have := (Nat.log2_lt h.pos.ne').mpr h.lt
    omega
  unfold UnpackedFloat.pack
  dsimp only
  rw [hbias, if_neg hfits]
  by_cases hfull : 2 ^ 52 ≤ b.mantissa
  · rw [if_pos (hbits.mpr hfull), biased, if_pos hfull]
  · rw [if_neg fun hlog => hfull (hbits.mp hlog), biased, if_neg hfull]

lemma toNat_biased : (BitVec.ofNat 11 h.biased).toNat = h.biased :=
  (BitVec.toNat_ofNat _ _).trans (Nat.mod_eq_of_lt (by have := h.biased_lt; omega))

lemma toNat_pack (s : Sign) :
    (UnpackedFloat.pack Format.binary64 (.finite s b.mantissa b.exponent h.pos)).toNat =
      s.toBitVec.toNat * 2 ^ 63 + h.biased * 2 ^ 52 + b.mantissa % 2 ^ 52 := by
  rw [h.pack_eq, toNat_packComponents, h.toNat_biased, BitVec.toNat_ofNat]

lemma unpack_pack (s : Sign) :
    (Float.Model.pack (.finite s b.mantissa b.exponent h.pos)).unpack =
      .finite s b.mantissa b.exponent h.pos := by
  have hlt := h.lt
  have hleast := h.least
  have hpos := h.pos
  have hfinite : BitVec.ofNat 11 h.biased ≠ -1#11 := by
    intro heq
    have hbits := congrArg BitVec.toNat heq
    rw [h.toNat_biased] at hbits
    exact absurd hbits h.biased_lt.ne
  have hrest : (BitVec.ofNat 52 b.mantissa).toNat = b.mantissa % 2 ^ 52 := BitVec.toNat_ofNat _ _
  have hzero : BitVec.ofNat 11 h.biased = 0#11 ↔ b.mantissa < 2 ^ 52 := by
    rw [← BitVec.toNat_inj, h.toNat_biased, biased]
    change _ = 0 ↔ _
    split <;> omega
  unfold Float.Model.unpack Float.Model.pack
  dsimp only
  rw [h.pack_eq]
  unfold UnpackedFloat.unpack
  simp only [unpackMantissa_packComponents, unpackExponent_packComponents,
    unpackSign_packComponents, Sign.ofBitVec_toBitVec]
  rw [if_neg hfinite]
  have hbias : (Format.binary64.exponentBias : Int) = 1023 := rfl
  by_cases hfull : 2 ^ 52 ≤ b.mantissa
  · have hmantissa : (1#1 ++ BitVec.ofNat 52 b.mantissa).toNat = b.mantissa := by
      rw [BitVec.toNat_append, ← Nat.shiftLeft_add_eq_or_of_lt (BitVec.isLt _), hrest]
      change 2 ^ 52 + _ = _
      omega
    rw [if_neg fun heq => (hzero.mp heq).not_ge hfull, finite.injEq]
    refine ⟨rfl, hmantissa, ?_⟩
    rw [h.toNat_biased, biased, if_pos hfull, hbias]
    omega
  · have hne : BitVec.ofNat 52 b.mantissa ≠ 0#52 := by
      intro heq
      have hbits := congrArg BitVec.toNat heq
      rw [hrest] at hbits
      change _ = 0 at hbits
      omega
    have hexponent : b.exponent = -1074 := by
      by_contra hne
      exact hfull (h.full (by omega))
    rw [if_pos (hzero.mpr (by omega)), dif_neg hne, finite.injEq]
    refine ⟨rfl, by rw [hrest]; omega, ?_⟩
    rw [h.toNat_biased, biased, if_neg hfull, hbias, hexponent]
    rfl

end Binary.Canonical

/-- The double that is taken apart into the parts. -/
def FloatClass.toFloat : FloatClass → Float
  | .nan => ⟨Float.Model.pack .notANumber⟩
  | .infinite negative => ⟨Float.Model.pack (.infinity (signOf negative))⟩
  | .finite negative b =>
    if h : 0 < b.mantissa then
      ⟨Float.Model.pack (.finite (signOf negative) b.mantissa b.exponent h)⟩
    else ⟨Float.Model.pack (.zero (signOf negative))⟩

lemma classify_eq (x : Float) :
    classify x =
      let n := x.toBits.toNat
      if n / 2 ^ 52 % 2 ^ 11 = 2047 then
        if n % 2 ^ 52 = 0 then .infinite (n / 2 ^ 63 == 1) else .nan
      else if n / 2 ^ 52 % 2 ^ 11 = 0 then .finite (n / 2 ^ 63 == 1) ⟨n % 2 ^ 52, -1074, false⟩
      else .finite (n / 2 ^ 63 == 1)
        ⟨2 ^ 52 + n % 2 ^ 52, ((n / 2 ^ 52 % 2 ^ 11 : Nat) : Int) - 1075,
          n % 2 ^ 52 == 0 && n / 2 ^ 52 % 2 ^ 11 > 1⟩ := rfl

lemma canonical_small {f : Nat} (hpos : 0 < f) (hf : f < 2 ^ 52) :
    (⟨f, -1074, false⟩ : Binary).Canonical :=
  ⟨hpos, by dsimp only; omega, le_refl _, by norm_num, fun h => absurd h (lt_irrefl _), by simp⟩

lemma canonical_full {f e : Nat} (hf : f < 2 ^ 52) (hnormal : e ≠ 0) (hfinite : e < 2047) :
    (⟨2 ^ 52 + f, (e : Int) - 1075, f == 0 && e > 1⟩ : Binary).Canonical := by
  refine ⟨?_, ?_, ?_, ?_, fun _ => Nat.le_add_right _ _, ?_⟩ <;> dsimp only
  · omega
  · omega
  · omega
  · omega
  · simp
    omega

lemma canonical_classify {x : Float} {negative : Bool} {b : Binary}
    (h : classify x = .finite negative b) (hpos : 0 < b.mantissa) : b.Canonical := by
  rw [classify_eq] at h
  dsimp only at h
  split at h
  · split at h <;> cases h
  · split at h
    · cases h
      exact canonical_small hpos (Nat.mod_lt _ (by positivity))
    · cases h
      exact canonical_full (Nat.mod_lt _ (by positivity)) ‹_› (by omega)

lemma toFloat_finite {negative : Bool} {b : Binary} (h : b.Canonical) :
    (FloatClass.finite negative b).toFloat =
      ⟨Float.Model.pack (.finite (signOf negative) b.mantissa b.exponent h.pos)⟩ :=
  dif_pos h.pos

lemma toFloat_zero {negative : Bool} {b : Binary} (h : b.mantissa = 0) :
    (FloatClass.finite negative b).toFloat = ⟨Float.Model.pack (.zero (signOf negative))⟩ :=
  dif_neg h.not_gt

lemma neg_toFloat {b : Binary} (h : b.Canonical) :
    -(FloatClass.finite false b).toFloat = (FloatClass.finite true b).toFloat := by
  rw [toFloat_finite h, toFloat_finite h]
  change Float.ofModel (Float.Model.pack (Float.Model.unpack _).neg) = _
  rw [h.unpack_pack]
  rfl

/-- There is only one double that is not a number. -/
lemma eq_nan {x : Float} (hexponent : x.toBits.toNat / 2 ^ 52 % 2 ^ 11 = 2047)
    (hmantissa : x.toBits.toNat % 2 ^ 52 ≠ 0) : FloatClass.nan.toFloat = x := by
  obtain ⟨⟨bits, valid⟩⟩ := x
  have hbits : bits.toBitVec = packedNaN Format.binary64 := by
    refine valid.eq_packedNaN (BitVec.eq_of_toNat_eq ?_) fun hzero => hmantissa ?_
    · rw [toNat_unpackExponent]
      exact hexponent
    · have htoNat := congrArg BitVec.toNat hzero
      rw [toNat_unpackMantissa] at htoNat
      exact htoNat
  refine eq_of_bits ?_
  exact congrArg BitVec.toNat hbits.symm

/-- A double is what it is taken apart into. -/
theorem FloatClass.toFloat_classify (x : Float) : (classify x).toFloat = x := by
  have hbits := bits_eq (n := x.toBits.toNat) x.toBits.toNat_lt
  rw [classify_eq]
  dsimp only
  split
  · next hmax =>
    split
    · next hzero =>
      rw [hmax, hzero] at hbits
      exact eq_of_bits ((toNat_packComponents _ _ _).trans hbits.symm)
    · next hnan => exact eq_nan hmax hnan
  · next hfinite =>
    split
    · next hsmall =>
      rw [hsmall] at hbits
      by_cases hpos : 0 < x.toBits.toNat % 2 ^ 52
      · have hb := canonical_small hpos (Nat.mod_lt _ (by positivity))
        rw [toFloat_finite hb]
        have hexponent : hb.biased = 0 := if_neg (Nat.mod_lt _ (by positivity)).not_ge
        refine eq_of_bits ((hb.toNat_pack _).trans ?_)
        rw [hexponent, Nat.mod_mod]
        exact hbits.symm
      · rw [Nat.eq_zero_of_not_pos hpos] at hbits
        rw [toFloat, dif_neg hpos]
        exact eq_of_bits ((toNat_packComponents _ _ _).trans hbits.symm)
    · next hnormal =>
      have hb := canonical_full (f := x.toBits.toNat % 2 ^ 52) (Nat.mod_lt _ (by positivity))
        hnormal (by omega)
      rw [toFloat_finite hb]
      have hexponent : hb.biased = x.toBits.toNat / 2 ^ 52 % 2 ^ 11 :=
        (if_pos (Nat.le_add_right _ _)).trans (by dsimp only; omega)
      refine eq_of_bits ((hb.toNat_pack _).trans ?_)
      rw [hexponent, Nat.add_mod_left, Nat.mod_mod]
      exact hbits.symm

end ChatEngine.Decimal
