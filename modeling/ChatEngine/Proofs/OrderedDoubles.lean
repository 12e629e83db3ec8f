import Mathlib

/-!
# The order of doubles

The doubles that are numbers stand in a line: the infinite ones at the ends, the two zeros in one
place, and those of one sign by their exponents first. What is compared is the places in that line
(`compare_eq`), so numbers are ordered like any linear order; what is not a number has no place and
compares with nothing.
-/

namespace ChatEngine.Double
open Float.Model Float.Model.UnpackedFloat

/-! ### Places -/

/-- The place of an unpacked double in the line of numbers. -/
def place? : UnpackedFloat → Option (Int ×ₗ Int ×ₗ Int)
  | .notANumber => none
  | .infinity .negative => some (toLex (-2, toLex (0, 0)))
  | .finite .negative m e _ => some (toLex (-1, toLex (-e, -m)))
  | .zero _ => some (toLex (0, toLex (0, 0)))
  | .finite .positive m e _ => some (toLex (1, toLex (e, m)))
  | .infinity .positive => some (toLex (2, toLex (0, 0)))

/-- The place of a double in the line of numbers. -/
def position? (x : Float) : Option (Int ×ₗ Int ×ₗ Int) := place? x.toModel.unpack

lemma compare_same (sign a b c d : Int) :
    compare (toLex (sign, toLex (a, b))) (toLex (sign, toLex (c, d))) =
      (compare a c).then (compare b d) := by
  have houter : compare (toLex (sign, toLex (a, b))) (toLex (sign, toLex (c, d))) =
      (compare sign sign).then (compare (toLex (a, b)) (toLex (c, d))) := by
    rw [Prod.Lex.compare_def]
    rfl
  have hinner : compare (toLex (a, b)) (toLex (c, d)) = (compare a c).then (compare b d) := by
    rw [Prod.Lex.compare_def]
    rfl
  rw [houter, hinner, compare_eq_iff_eq.mpr rfl, Ordering.eq_then]

lemma compare_neg (a b : Int) : compare (-a) (-b) = (compare a b).swap := by
  simp only [Int.compare_eq_ite_lt]
  split_ifs <;> first | rfl | omega

lemma compare_natCast (m n : Nat) : compare (m : Int) (n : Int) = compare m n := by
  simp only [Int.compare_eq_ite_lt, Nat.compare_eq_ite_lt, Int.ofNat_lt]

/-- Comparing doubles compares their places. -/
lemma compare_eq (x y : UnpackedFloat) :
    x.compare y = (place? x).bind fun p => (place? y).map (compare p) := by
  rcases x with (_ | _) | _ | _ | ⟨_ | _, m₁, e₁, _⟩ <;>
    rcases y with (_ | _) | _ | _ | ⟨_ | _, m₂, e₂, _⟩ <;> try rfl
  · change some ((compare e₁ e₂).then (compare m₁ m₂)).swap = some (compare _ _)
    rw [compare_same, compare_neg, compare_neg, compare_natCast, Ordering.swap_then]
  · change some ((compare e₁ e₂).then (compare m₁ m₂)) = some (compare _ _)
    rw [compare_same, compare_natCast]

/-! ### Comparisons -/

variable {x y z : Float}

lemma le_iff : x ≤ y ↔ ∃ p ∈ position? x, ∃ q ∈ position? y, p ≤ q := by
  change decide ((x.toModel.unpack.compare y.toModel.unpack).any (·.isLE) = true) = true ↔ _
  rw [decide_eq_true_iff, compare_eq]
  unfold position?
  cases place? x.toModel.unpack <;> cases place? y.toModel.unpack <;>
    simp [Ordering.isLE_iff_ne_gt, ← compare_le_iff_le]

lemma lt_iff : x < y ↔ ∃ p ∈ position? x, ∃ q ∈ position? y, p < q := by
  change decide ((x.toModel.unpack.compare y.toModel.unpack == some .lt) = true) = true ↔ _
  rw [decide_eq_true_iff, compare_eq]
  unfold position?
  cases place? x.toModel.unpack <;> cases place? y.toModel.unpack <;>
    simp [← compare_lt_iff_lt]

lemma beq_iff : (x == y) = true ↔ ∃ p ∈ position? y, p ∈ position? x := by
  change (x.toModel.unpack.compare y.toModel.unpack == some .eq) = true ↔ _
  rw [compare_eq]
  unfold position?
  cases place? x.toModel.unpack <;> cases place? y.toModel.unpack <;>
    simp [compare_eq_iff_eq]

lemma isNaN_eq_false_iff : x.isNaN = false ↔ ∃ p, p ∈ position? x := by
  change x.toModel.unpack.isNaN = false ↔ _
  unfold position?
  rcases x.toModel.unpack with (_ | _) | _ | _ | ⟨_ | _, _, _, _⟩ <;>
    simp [place?, UnpackedFloat.isNaN]

/-! ### Laws -/

lemma lt_trans (hxy : x < y) (hyz : y < z) : x < z := by
  obtain ⟨p, hp, q, hq, hpq⟩ := lt_iff.mp hxy
  obtain ⟨q', hq', r, hr, hqr⟩ := lt_iff.mp hyz
  obtain rfl := Option.mem_unique hq hq'
  exact lt_iff.mpr ⟨p, hp, r, hr, hpq.trans hqr⟩

lemma le_of_lt (h : x < y) : x ≤ y := by
  obtain ⟨p, hp, q, hq, hpq⟩ := lt_iff.mp h
  exact le_iff.mpr ⟨p, hp, q, hq, hpq.le⟩

lemma le_trans (hxy : x ≤ y) (hyz : y ≤ z) : x ≤ z := by
  obtain ⟨p, hp, q, hq, hpq⟩ := le_iff.mp hxy
  obtain ⟨q', hq', r, hr, hqr⟩ := le_iff.mp hyz
  obtain rfl := Option.mem_unique hq hq'
  exact le_iff.mpr ⟨p, hp, r, hr, hpq.trans hqr⟩

lemma not_le_of_lt (h : x < y) : ¬ y ≤ x := by
  intro hyx
  obtain ⟨p, hp, q, hq, hpq⟩ := lt_iff.mp h
  obtain ⟨q', hq', p', hp', hqp⟩ := le_iff.mp hyx
  obtain rfl := Option.mem_unique hq hq'
  obtain rfl := Option.mem_unique hp hp'
  exact hqp.not_gt hpq

/-- Numbers are ordered one way or the other; a common bound says that both are numbers. -/
lemma lt_of_not_le (hxz : x < z) (hyz : y ≤ z) (h : ¬ y ≤ x) : x < y := by
  obtain ⟨p, hp, -⟩ := lt_iff.mp hxz
  obtain ⟨q, hq, -⟩ := le_iff.mp hyz
  exact lt_iff.mpr ⟨p, hp, q, hq, not_le.mp fun hqp => h (le_iff.mpr ⟨q, hq, p, hp, hqp⟩)⟩

lemma not_beq_of_lt (h : x < y) : (x == y) = false := by
  rw [← Bool.not_eq_true]
  intro hxy
  obtain ⟨p, hp, hp'⟩ := beq_iff.mp hxy
  exact not_le_of_lt h (le_iff.mpr ⟨p, hp, p, hp', le_rfl⟩)

lemma beq_self_of_le (h : x ≤ y) : (y == y) = true := by
  obtain ⟨-, -, q, hq, -⟩ := le_iff.mp h
  exact beq_iff.mpr ⟨q, hq, hq⟩

lemma le_last {u : UnpackedFloat} {p : Int ×ₗ Int ×ₗ Int} (h : p ∈ place? u) :
    p ≤ toLex (2, toLex (0, 0)) := by
  rcases u with (_ | _) | _ | _ | ⟨_ | _, _, _, _⟩ <;> cases h
  case infinity.positive => exact le_rfl
  all_goals exact Prod.Lex.toLex_le_toLex.mpr (.inl (by simp))

/-- No number is above infinity. -/
lemma le_infinity (h : x.isNaN = false) : x ≤ 1.0 / 0.0 := by
  obtain ⟨p, hp⟩ := isNaN_eq_false_iff.mp h
  exact le_iff.mpr ⟨p, hp, _, (by decide : position? (1.0 / 0.0) = some _), le_last hp⟩

end ChatEngine.Double
