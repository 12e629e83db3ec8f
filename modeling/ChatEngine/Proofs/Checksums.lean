import ChatEngine.Crc32
import Mathlib.Algebra.CharP.Two
import Mathlib.Algebra.Field.ZMod
import Mathlib.Algebra.Polynomial.Div
import Mathlib.RingTheory.AdjoinRoot
import Mathlib.Tactic.ComputeDegree

/-!
# Checksums as remainders

CRC-32 of IEEE 802.3 is defined by division of polynomials over two elements: the bits of a message
are the coefficients of one, its first bit the highest, and the checksum is the remainder of it by
the generator, 32 places up, the first and the last 32 bits complemented. A register that takes in a
byte after the other holds that remainder in reflected order, so the checksum that is computed is
the one that is defined.
-/
namespace ChatEngine.Crc32
open Polynomial

/-- The generator polynomial. -/
noncomputable def generator : (ZMod 2)[X] :=
  X ^ 32 + X ^ 26 + X ^ 23 + X ^ 22 + X ^ 16 + X ^ 12 + X ^ 11 + X ^ 10 + X ^ 8 + X ^ 7 + X ^ 5
    + X ^ 4 + X ^ 2 + X + 1

/-- The polynomial of a number's bits, the lowest of them the highest coefficient. -/
noncomputable def bitsPoly (width n : Nat) : (ZMod 2)[X] :=
  ∑ i ∈ Finset.range width, monomial i ((n.testBit (width - 1 - i)).toNat : ZMod 2)

/-- The polynomial of a message, whose first bit is the highest coefficient. -/
noncomputable def messagePoly : List UInt8 → (ZMod 2)[X]
  | [] => 0
  | byte :: rest => X ^ (8 * rest.length) * bitsPoly 8 byte.toNat + messagePoly rest

/-- The polynomial of 32 ones; adding it complements 32 bits. -/
noncomputable def ones : (ZMod 2)[X] := ∑ i ∈ Finset.range 32, X ^ i

/-- The word is the checksum of the bytes: complemented, it is the remainder of the message 32
places up, the first 32 bits of which are complemented. -/
def IsChecksum (bytes : List UInt8) (word : UInt32) : Prop :=
  bitsPoly 32 word.toNat + ones =
    (X ^ 32 * messagePoly bytes + X ^ (8 * bytes.length) * ones) %ₘ generator

/-! ### Polynomials of bits -/

lemma coeff_bitsPoly (width n i : Nat) :
    (bitsPoly width n).coeff i =
      if i < width then ((n.testBit (width - 1 - i)).toNat : ZMod 2) else 0 := by
  simp only [bitsPoly, finsetSum_coeff, coeff_monomial, Finset.sum_ite_eq', Finset.mem_range]

lemma cast_xor (x y : Bool) : ((x ^^ y).toNat : ZMod 2) = x.toNat + y.toNat := by
  cases x <;> cases y <;> decide

/-- Exclusive or is addition. -/
lemma bitsPoly_xor (width m n : Nat) :
    bitsPoly width (m ^^^ n) = bitsPoly width m + bitsPoly width n := by
  simp only [bitsPoly, Nat.testBit_xor, cast_xor, map_add, Finset.sum_add_distrib]

/-- A step to the right is multiplication by the variable, but for the bit that falls off. -/
lemma X_mul_bitsPoly (width : Nat) {n : Nat} (small : n < 2 ^ (width + 1)) :
    X * bitsPoly (width + 1) n =
      bitsPoly (width + 1) (n >>> 1) + monomial (width + 1) ((n.testBit 0).toNat : ZMod 2) := by
  ext k
  rw [coeff_add, coeff_monomial, coeff_bitsPoly, Nat.testBit_shiftRight]
  cases k with
  | zero =>
    have htop : n.testBit (1 + width) = false :=
      Nat.testBit_lt_two_pow (by rwa [Nat.add_comm])
    simp [htop]
  | succ k =>
    rw [coeff_X_mul, coeff_bitsPoly]
    obtain hlow | rfl | hhigh := lt_trichotomy k width
    · have hplace : 1 + (width - (k + 1)) = width - k := by omega
      simp [hplace, hlow, hlow.le, hlow.ne']
    · simp
    · simp [hhigh.ne, Nat.not_le.mpr hhigh, hhigh.le]

/-- Bits of a narrow number stand at the high end of a wide polynomial. -/
lemma bitsPoly_widen {width wide n : Nat} (fits : width ≤ wide) (small : n < 2 ^ width) :
    bitsPoly wide n = X ^ (wide - width) * bitsPoly width n := by
  ext k
  rw [coeff_X_pow_mul', coeff_bitsPoly, coeff_bitsPoly]
  by_cases hlow : wide - width ≤ k
  · by_cases hk : k < wide
    · have hplace : width - 1 - (k - (wide - width)) = wide - 1 - k := by omega
      simp [hlow, hk, hplace, show k - (wide - width) < width by omega]
    · simp [hk, show ¬ k - (wide - width) < width by omega]
  · have hzero : n.testBit (wide - 1 - k) = false :=
      Nat.testBit_lt_two_pow (small.trans_le (Nat.pow_le_pow_right two_pos (by omega)))
    simp [hlow, hzero]

lemma degree_bitsPoly_lt (width n : Nat) : (bitsPoly width n).degree < width := by
  rw [degree_lt_iff_coeff_zero]
  intro k hk
  rw [coeff_bitsPoly, if_neg (Nat.not_lt.mpr hk)]

/-- The bits of a number can be read off its polynomial. -/
lemma bitsPoly_injective {width m n : Nat} (hm : m < 2 ^ width) (hn : n < 2 ^ width)
    (same : bitsPoly width m = bitsPoly width n) : m = n := by
  apply Nat.eq_of_testBit_eq
  intro i
  by_cases hi : i < width
  · have hcoeff := congrArg (coeff · (width - 1 - i)) same
    simp only [coeff_bitsPoly] at hcoeff
    rw [if_pos (by omega), if_pos (by omega), show width - 1 - (width - 1 - i) = i by omega]
      at hcoeff
    revert hcoeff
    cases m.testBit i <;> cases n.testBit i <;> decide
  · have hpow : 2 ^ width ≤ 2 ^ i := Nat.pow_le_pow_right two_pos (Nat.not_lt.mp hi)
    rw [Nat.testBit_lt_two_pow (hm.trans_le hpow), Nat.testBit_lt_two_pow (hn.trans_le hpow)]

/-! ### The generator -/

lemma degree_generator : generator.degree = 32 := by
  unfold generator
  compute_degree!

lemma monic_generator : generator.Monic := by
  unfold generator
  monicity!

/-- The reflected generator lacks the highest power only. -/
lemma X_pow_eq_polynomial : X ^ 32 = bitsPoly 32 polynomial.toNat + generator := by
  have hbits : bitsPoly 32 polynomial.toNat + X ^ 32 = generator := by
    simp [bitsPoly, Finset.sum_range_succ, polynomial, Nat.testBit_eq_decide_div_mod_eq,
      monomial_one_right_eq_X_pow, generator]
    ring
  rw [← hbits, ← add_assoc, CharTwo.add_self_eq_zero, zero_add]

lemma bitsPoly_ones : bitsPoly 32 (0xffffffff : UInt32).toNat = ones := by
  simp [bitsPoly, ones, Finset.sum_range_succ, Nat.testBit_eq_decide_div_mod_eq,
    monomial_one_right_eq_X_pow]

/-! ### The register -/

/-- What a register stands for: its polynomial, up to multiples of the generator. -/
noncomputable def residue (r : UInt32) : AdjoinRoot generator :=
  AdjoinRoot.mk generator (bitsPoly 32 r.toNat)

lemma residue_xor (r s : UInt32) : residue (r ^^^ s) = residue r + residue s := by
  rw [residue, UInt32.toNat_xor, bitsPoly_xor, map_add, residue, residue]

/-- A byte stands for its polynomial 24 places up. -/
lemma residue_byte (byte : UInt8) :
    residue byte.toUInt32 = AdjoinRoot.mk generator (X ^ 24 * bitsPoly 8 byte.toNat) := by
  rw [residue, UInt8.toNat_toUInt32, bitsPoly_widen (by decide) byte.toNat_lt]

/-- The power above the register stands for the rest of the generator. -/
lemma mk_X_pow : AdjoinRoot.mk generator (X ^ 32) = residue polynomial := by
  rw [X_pow_eq_polynomial, map_add, AdjoinRoot.mk_self, add_zero, residue]

/-- To divide out a bit is to move one place up: the highest power, where there is one, falls off
and the rest of the generator takes its place. -/
lemma residue_shiftBit (r : UInt32) :
    residue (shiftBit r) = AdjoinRoot.mk generator X * residue r := by
  have hshift := congrArg (AdjoinRoot.mk generator) (X_mul_bitsPoly 31 r.toNat_lt)
  have hlow : r &&& 1 = 1 ↔ r.toNat.testBit 0 = true := by
    rw [← UInt32.toNat_inj, UInt32.toNat_and, Nat.testBit_zero]
    simp
  have hhalf : (r >>> 1).toNat = r.toNat >>> 1 := by simp
  rw [map_mul, map_add, ← hhalf, ← residue, ← residue] at hshift
  rw [hshift, shiftBit]
  by_cases hbit : r.toNat.testBit 0 = true
  · rw [if_pos (hlow.mpr hbit), residue_xor, ← mk_X_pow, hbit, Bool.toNat_true, Nat.cast_one,
      monomial_one_right_eq_X_pow]
  · rw [if_neg (mt hlow.mp hbit), Bool.eq_false_iff.mpr hbit, Bool.toNat_false, Nat.cast_zero,
      map_zero, map_zero, add_zero]

lemma residue_shifts (r : UInt32) (places : Nat) :
    residue ((List.range places).foldl (fun r _ => shiftBit r) r) =
      AdjoinRoot.mk generator (X ^ places) * residue r := by
  induction places with
  | zero => simp
  | succ places ih =>
    rw [List.range_succ, List.foldl_append, List.foldl_cons, List.foldl_nil, residue_shiftBit, ih,
      pow_succ', map_mul, mul_assoc]

/-- A byte is taken in 32 places up, and what the register held moves 8 places up. -/
lemma residue_addByte (r : UInt32) (byte : UInt8) :
    residue (addByte r byte) =
      AdjoinRoot.mk generator (X ^ 8) * residue r +
        AdjoinRoot.mk generator (X ^ 32 * bitsPoly 8 byte.toNat) := by
  have hpower : (X : (ZMod 2)[X]) ^ 32 = X ^ 8 * X ^ 24 := by rw [← pow_add]
  rw [addByte, residue_shifts, residue_xor, residue_byte, mul_add, ← map_mul, ← mul_assoc, hpower]

/-- Bytes taken in one after the other are the message they form. -/
lemma residue_foldl (bytes : List UInt8) (r : UInt32) :
    residue (bytes.foldl addByte r) =
      AdjoinRoot.mk generator (X ^ (8 * bytes.length)) * residue r +
        AdjoinRoot.mk generator (X ^ 32 * messagePoly bytes) := by
  induction bytes generalizing r with
  | nil => simp [messagePoly]
  | cons byte rest ih =>
    rw [List.foldl_cons, ih, residue_addByte, messagePoly, List.length_cons]
    simp only [map_mul, map_add, map_pow]
    ring

/-! ### The checksum -/

/-- The checksum, complemented, is what the register holds in the end. -/
lemma bitsPoly_ofBytes (bytes : List UInt8) :
    bitsPoly 32 (ofBytes bytes).toNat + ones =
      bitsPoly 32 (bytes.foldl addByte 0xffffffff).toNat := by
  rw [ofBytes, UInt32.toNat_xor, bitsPoly_xor, bitsPoly_ones, add_assoc, CharTwo.add_self_eq_zero,
    add_zero]

lemma isChecksum_ofBytes (bytes : List UInt8) : IsChecksum bytes (ofBytes bytes) := by
  have hresidue := residue_foldl bytes 0xffffffff
  rw [residue, residue, bitsPoly_ones, ← map_mul, ← map_add, AdjoinRoot.mk_eq_mk] at hresidue
  have hsmall : (bitsPoly 32 (bytes.foldl addByte 0xffffffff).toNat).degree < generator.degree := by
    rw [degree_generator]
    exact degree_bitsPoly_lt 32 _
  rw [IsChecksum, bitsPoly_ofBytes, add_comm (X ^ 32 * _),
    ← modByMonic_eq_of_dvd_sub monic_generator hresidue,
    (modByMonic_eq_self_iff monic_generator).mpr hsmall]

/-- The checksum of bytes is the one that the division of polynomials defines, and the only one. -/
theorem isChecksum_iff (bytes : List UInt8) (word : UInt32) :
    IsChecksum bytes word ↔ word = ofBytes bytes := by
  constructor
  · intro h
    have hsame := add_right_cancel (h.trans (isChecksum_ofBytes bytes).symm)
    exact UInt32.toNat_inj.mp (bitsPoly_injective word.toNat_lt (ofBytes bytes).toNat_lt hsame)
  · rintro rfl
    exact isChecksum_ofBytes bytes

/-- The value by which implementations of CRC-32 are checked. -/
example : ofText "123456789" = 0xcbf43926 := by decide +kernel

end ChatEngine.Crc32
