import ChatEngine.Proofs.CanonicalIntegers
import ChatEngine.Proofs.Exposition
import ChatEngine.Proofs.ShortestDecimals

/-!
# Texts of numbers

The numbers that metrics show are written so that they can be read: the text of a double is read as
that double, whatever it is (`readNumber?_floatText`), and the text of a count as that count
(`readNumber?_intText`).
-/

namespace ChatEngine.Exposition
open Decimal

/-! ### Digits -/

lemma digitsValue_toDigits (n : Nat) : digitsValue (Nat.toDigits 10 n) = n :=
  Nat.ofDigitChars_ten_toDigits

lemma stripZeros_append (digits : List Char) :
    ∃ zeros, digits = stripZeros digits ++ List.replicate zeros '0' := by
  have hzeros : ∀ c ∈ digits.reverse.takeWhile (· == '0'), c = '0' := fun c hc => by
    simpa using List.mem_takeWhile_imp hc
  have hsplit := congrArg List.reverse
    (List.takeWhile_append_dropWhile (p := (· == '0')) (l := digits.reverse))
  rw [List.eq_replicate_of_mem hzeros, List.reverse_append, List.reverse_replicate,
    List.reverse_reverse] at hsplit
  exact ⟨_, hsplit.symm⟩

variable {c : Char} {cs : List Char}

lemma splitSign_digit (h : c.isDigit = true) : splitSign (c :: cs) = (false, c :: cs) := by
  unfold splitSign
  split
  · next heq =>
    rw [(List.cons.inj heq).1] at h
    exact absurd h (by decide)
  · next heq =>
    rw [(List.cons.inj heq).1] at h
    exact absurd h (by decide)
  · rfl

/-- A digit begins no word. -/
lemma toLower_digit (h : c.isDigit = true) : c.toLower ≠ 'n' ∧ c.toLower ≠ 'i' := by
  obtain ⟨d, rfl⟩ := eq_digitChar h
  revert d
  decide

/-- What begins with a digit, after a sign or not, is a decimal number. -/
lemma readNumber?_decimal (h : c.isDigit = true) (negative : Bool) :
    readNumber? ((if negative then ['-'] else []) ++ c :: cs) =
      readDecimal? negative (c :: cs) := by
  obtain ⟨hn, hi⟩ := toLower_digit h
  have hsign : splitSign ((if negative then ['-'] else []) ++ c :: cs) = (negative, c :: cs) := by
    cases negative with
    | true => rfl
    | false => exact splitSign_digit h
  have hnan : ((if negative then ['-'] else []) ++ c :: cs).map Char.toLower ≠ "nan".toList := by
    intro heq
    cases negative with
    | true => exact absurd (List.cons.inj heq).1 (by decide)
    | false => exact hn (List.cons.inj heq).1
  have hinfinite :
      ¬ ["inf".toList, "infinity".toList].contains ((c :: cs).map Char.toLower) = true := by
    intro hmem
    rcases List.mem_pair.mp (List.contains_iff_mem.mp hmem) with heq | heq
    · exact hi (List.cons.inj heq).1
    · exact hi (List.cons.inj heq).1
  unfold readNumber?
  rw [hsign]
  dsimp only
  rw [if_neg hnan, if_neg hinfinite]

/-! ### Decimal numbers -/

lemma takeWhile_digits {digits rest : List Char} (h : ∀ c ∈ digits, c.isDigit = true)
    (hrest : ∀ c ∈ rest.head?, c.isDigit = false) :
    (digits ++ rest).takeWhile Char.isDigit = digits ∧
      (digits ++ rest).dropWhile Char.isDigit = rest := by
  rw [List.takeWhile_append_of_pos h, List.dropWhile_append_of_pos h]
  cases rest with
  | nil => exact ⟨List.append_nil _, rfl⟩
  | cons d rest =>
    have hd : ¬ d.isDigit = true := by
      rw [hrest d rfl]
      exact Bool.false_ne_true
    rw [List.takeWhile_cons_of_neg hd, List.dropWhile_cons_of_neg hd, List.append_nil]
    exact ⟨rfl, rfl⟩

/-- An exponent is a sign and digits. -/
lemma exponentText_eq (e : Int) :
    ∃ digits, (exponentText e).toList = (if e < 0 then '-' else '+') :: digits ∧ digits ≠ [] ∧
      (∀ c ∈ digits, c.isDigit = true) ∧ digitsValue digits = e.natAbs := by
  have hdigits : ∀ c ∈ digitChars e.natAbs, c.isDigit = true := fun c => isDigit_of_mem_toDigits
  have hvalue : digitsValue (digitChars e.natAbs) = e.natAbs := digitsValue_toDigits _
  have htext (digits : List Char) : ((if e < 0 then "-" else "+") ++ String.ofList digits).toList =
      (if e < 0 then '-' else '+') :: digits := by
    rw [String.toList_append, String.toList_ofList]
    split <;> rfl
  unfold exponentText
  dsimp only
  by_cases hshort : (digitChars e.natAbs).length < 2
  · have hzero : '0'.toNat - 48 = 0 := rfl
    rw [if_pos hshort]
    refine ⟨_, htext _, List.cons_ne_nil _ _, List.forall_mem_cons.mpr ⟨rfl, hdigits⟩, ?_⟩
    rw [digitsValue_cons, hzero, Nat.zero_mul, Nat.zero_add, hvalue]
  · rw [if_neg hshort]
    exact ⟨_, htext _, Nat.toDigits_ne_nil, hdigits, hvalue⟩

lemma readExponent?_exponentText (e : Int) :
    readExponent? ('e' :: (exponentText e).toList) = some e := by
  obtain ⟨digits, htext, hne, hdigits, hvalue⟩ := exponentText_eq e
  have hsign : splitSign (exponentText e).toList = (decide (e < 0), digits) := by
    rw [htext]
    by_cases he : e < 0
    · rw [if_pos he, decide_eq_true he]
      rfl
    · rw [if_neg he, decide_eq_false he]
      rfl
  have hform : (Char.toLower 'e' = 'e' && !digits.isEmpty && digits.all Char.isDigit) = true := by
    rw [List.all_eq_true.mpr hdigits, List.isEmpty_eq_false_iff.mpr hne]
    rfl
  unfold readExponent?
  dsimp only
  rw [hsign]
  dsimp only
  rw [if_pos hform, hvalue]
  congr 1
  simp only [decide_eq_true_eq]
  split <;> omega

/-- The parts of a decimal number: digits, maybe a point with decimals, and maybe an exponent. -/
structure Parts (whole point decimals tail : List Char) (e : Int) : Prop where
  whole_digits : ∀ c ∈ whole, c.isDigit = true
  nonempty : whole ≠ []
  decimals_digits : ∀ c ∈ decimals, c.isDigit = true
  pointed : point = '.' :: decimals ∨ point = [] ∧ decimals = []
  ending : tail = [] ∧ e = 0 ∨ tail = 'e' :: (exponentText e).toList

lemma Parts.readDecimal? {whole point decimals tail : List Char} {e : Int}
    (h : Parts whole point decimals tail e) (negative : Bool) :
    Exposition.readDecimal? negative (whole ++ (point ++ tail)) =
      some (.decimal negative (whole ++ decimals) (e - decimals.length)) := by
  obtain ⟨hwhole, hne, hdecimals, hpoint, htail⟩ := h
  have hexponent : readExponent? tail = some e := by
    rcases htail with ⟨rfl, rfl⟩ | rfl
    · rfl
    · exact readExponent?_exponentText e
  have hfirst : ∀ c ∈ tail.head?, c = 'e' := by
    rcases htail with ⟨rfl, -⟩ | rfl
    · exact fun c hc => by cases hc
    · exact fun c hc => by cases hc; rfl
  obtain ⟨hafter, hpieces⟩ : (∀ c ∈ (point ++ tail).head?, c.isDigit = false) ∧
      splitFraction (point ++ tail) = (decimals, tail) := by
    rcases hpoint with rfl | ⟨rfl, rfl⟩
    · have hrest : ∀ c ∈ tail.head?, c.isDigit = false := fun c hc => by rw [hfirst c hc]; rfl
      obtain ⟨htake, hdrop⟩ := takeWhile_digits hdecimals hrest
      refine ⟨fun c hc => by cases hc; rfl, ?_⟩
      rw [List.cons_append, splitFraction, htake, hdrop]
    · refine ⟨fun c hc => by rw [hfirst c hc]; rfl, ?_⟩
      rw [List.nil_append]
      unfold splitFraction
      split
      · exact absurd (hfirst '.' rfl) (by decide)
      · rfl
  obtain ⟨htake, hdrop⟩ := takeWhile_digits hwhole hafter
  unfold Exposition.readDecimal?
  rw [htake, hdrop, hpieces]
  dsimp only
  rw [if_neg (by simp [hne]), hexponent]
  rfl

/-- Whether characters are digits, maybe with a point and an exponent, of the value. -/
def Denotes (text : List Char) (value : ℚ) : Prop :=
  ∃ whole point decimals tail e, text = whole ++ (point ++ tail) ∧
    Parts whole point decimals tail e ∧
    (digitsValue (whole ++ decimals) : ℚ) * 10 ^ (e - decimals.length) = value

lemma Denotes.readNumber? {text : List Char} {value : ℚ} (h : Denotes text value)
    (negative : Bool) :
    ∃ digits exponent, readNumber? ((if negative then ['-'] else []) ++ text) =
      some (.decimal negative digits exponent) ∧ (∀ c ∈ digits, c.isDigit = true) ∧
        (digitsValue digits : ℚ) * 10 ^ exponent = value := by
  obtain ⟨whole, point, decimals, tail, e, rfl, hparts, hvalue⟩ := h
  refine ⟨_, _, ?_, List.forall_mem_append.mpr ⟨hparts.whole_digits, hparts.decimals_digits⟩,
    hvalue⟩
  have hread := hparts.readDecimal? negative
  obtain ⟨c, cs, rfl⟩ := List.exists_cons_of_ne_nil hparts.nonempty
  rw [← hread, List.cons_append]
  exact readNumber?_decimal (hparts.whole_digits c List.mem_cons_self) negative

lemma forall_mem_zeros (n : Nat) : ∀ c ∈ List.replicate n '0', c.isDigit = true := fun c hc => by
  rw [List.eq_of_mem_replicate hc]
  rfl

section LayOut

variable {digits : List Char} (hdigits : ∀ c ∈ digits, c.isDigit = true)
include hdigits

lemma denotes_scientific (hne : digits ≠ []) (p : Int) :
    Denotes (digits.take 1 ++ ((if (digits.drop 1).isEmpty then [] else '.' :: digits.drop 1) ++
      'e' :: (exponentText (p - 1)).toList)) (digitsValue digits * 10 ^ (p - digits.length)) := by
  obtain ⟨c, cs, rfl⟩ := List.exists_cons_of_ne_nil hne
  obtain ⟨hc, hcs⟩ := List.forall_mem_cons.mp hdigits
  refine ⟨[c], _, cs, _, p - 1, rfl,
    ⟨List.forall_mem_singleton.mpr hc, List.cons_ne_nil _ _, hcs, ?_, .inr rfl⟩, ?_⟩
  · cases cs with
    | nil => exact .inr ⟨rfl, rfl⟩
    | cons d ds => exact .inl rfl
  · rw [List.length_cons, List.singleton_append]
    congr 2
    push_cast
    ring

lemma denotes_small {p : Int} (hp : p ≤ 0) :
    Denotes ('0' :: '.' :: List.replicate (-p).toNat '0' ++ digits)
      (digitsValue digits * 10 ^ (p - digits.length)) := by
  have hdecimals : ∀ c ∈ List.replicate (-p).toNat '0' ++ digits, c.isDigit = true :=
    List.forall_mem_append.mpr ⟨forall_mem_zeros _, hdigits⟩
  have hvalue : digitsValue (['0'] ++ (List.replicate (-p).toNat '0' ++ digits)) =
      digitsValue digits := by
    rw [← List.append_assoc, ← List.replicate_one, ← List.replicate_add, digitsValue_append,
      digitsValue_zeros, Nat.zero_mul, Nat.zero_add]
  refine ⟨['0'], _, _, [], 0, ?_, ⟨List.forall_mem_singleton.mpr rfl, List.cons_ne_nil _ _,
    hdecimals, .inl rfl, .inl ⟨rfl, rfl⟩⟩, ?_⟩
  · rw [List.append_nil]
    rfl
  · rw [hvalue, List.length_append, List.length_replicate]
    congr 2
    push_cast
    omega

lemma denotes_positional (hne : digits ≠ []) {p : Int} (hp : 0 < p) :
    Denotes (digits.take p.toNat ++ List.replicate (p.toNat - (digits.take p.toNat).length) '0' ++
      '.' :: (if (digits.drop p.toNat).isEmpty then ['0'] else digits.drop p.toNat))
      (digitsValue digits * 10 ^ (p - digits.length)) := by
  obtain ⟨k, rfl⟩ : ∃ k : Nat, p = k := ⟨p.toNat, by omega⟩
  rw [Int.toNat_natCast]
  by_cases hshort : digits.length ≤ k
  · -- zeros fill the places up to the point
    rw [List.drop_eq_nil_of_le hshort, List.take_of_length_le hshort]
    have hvalue : digitsValue (digits ++ List.replicate (k - digits.length) '0' ++ ['0']) =
        digitsValue digits * 10 ^ (k - digits.length + 1) := by
      rw [List.append_assoc, ← List.replicate_one, ← List.replicate_add, digitsValue_append,
        digitsValue_zeros, List.length_replicate, Nat.add_zero]
    refine ⟨_, _, ['0'], [], 0, ?_,
      ⟨List.forall_mem_append.mpr ⟨hdigits, forall_mem_zeros (k - digits.length)⟩,
        List.append_ne_nil_of_left_ne_nil hne _, List.forall_mem_singleton.mpr rfl, .inl rfl,
        .inl ⟨rfl, rfl⟩⟩, ?_⟩
    · rw [List.append_nil]
      rfl
    · rw [hvalue, Nat.cast_mul, Nat.cast_pow, Nat.cast_ofNat, mul_assoc, ← zpow_natCast,
        ← zpow_add₀ (by norm_num)]
      congr 2
      rw [List.length_singleton]
      omega
  · have hmore : k < digits.length := not_le.mp hshort
    have hrest : digits.drop k ≠ [] := fun hnil => hshort (List.drop_eq_nil_iff.mp hnil)
    have hfirst : digits.take k ≠ [] := fun hnil => by
      rcases List.take_eq_nil_iff.mp hnil with hzero | hnil
      · omega
      · exact hne hnil
    rw [List.length_take_of_le hmore.le, Nat.sub_self, List.replicate_zero, List.append_nil,
      if_neg (by simpa using hrest)]
    refine ⟨_, _, digits.drop k, [], 0, ?_, ⟨fun c hc => hdigits c (List.mem_of_mem_take hc),
      hfirst, fun c hc => hdigits c (List.mem_of_mem_drop hc), .inl rfl, .inl ⟨rfl, rfl⟩⟩, ?_⟩
    · rw [List.append_nil]
    · rw [List.take_append_drop, List.length_drop]
      congr 2
      omega

end LayOut

/-- Digits that are laid out keep their value. -/
lemma denotes_layOut {digits : List Char} (hne : digits ≠ [])
    (hdigits : ∀ c ∈ digits, c.isDigit = true) (p : Int) :
    Denotes (layOut digits p).toList (digitsValue digits * 10 ^ (p - digits.length)) := by
  unfold layOut
  dsimp only
  split
  · rw [String.toList_append, String.toList_append, String.toList_ofList, List.append_assoc,
      List.append_assoc]
    exact denotes_scientific hdigits hne p
  · split
    · next hsmall =>
      rw [String.toList_ofList]
      exact denotes_small hdigits hsmall
    · next hlarge =>
      rw [String.toList_ofList]
      exact denotes_positional hdigits hne (not_le.mp hlarge)

/-! ### Doubles and counts -/

lemma toFloat_decimal {b : Binary} (h : b.Canonical) {digits : List Char} {exponent : Int}
    (hdigits : ∀ c ∈ digits, c.isDigit = true)
    (hcovers : b.Covers (digitsValue digits * 10 ^ exponent)) (negative : Bool) :
    (Number.decimal negative digits exponent).toFloat =
      (FloatClass.finite negative b).toFloat := by
  rw [Number.toFloat, Json.floatOf, ofDigits_eq h hdigits hcovers]
  cases negative with
  | true => exact neg_toFloat h
  | false => rfl

/-- The text of a double other than zero has the value of its shortest decimal. -/
lemma denotes_shortest {b : Binary} (h : b.Canonical) :
    Denotes (layOut (stripZeros (digitChars b.shortest.digits))
      ((digitChars b.shortest.digits).length + b.shortest.place)).toList
      (b.shortest.digits * 10 ^ b.shortest.place) := by
  have hcovers := (Binary.roundsTo_iff h.pos _ _).mp (Binary.roundsTo_shortest h)
  generalize b.shortest = d at hcovers ⊢
  obtain ⟨zeros, hzeros⟩ := stripZeros_append (digitChars d.digits)
  have hvalue : digitsValue (stripZeros (digitChars d.digits)) * 10 ^ zeros = d.digits := by
    have hsplit := congrArg digitsValue hzeros
    rw [digitsValue_append, digitsValue_zeros, List.length_replicate, Nat.add_zero] at hsplit
    exact hsplit.symm.trans (digitsValue_toDigits _)
  have hlength := congrArg List.length hzeros
  rw [List.length_append, List.length_replicate] at hlength
  have hdigits : ∀ c ∈ stripZeros (digitChars d.digits), c.isDigit = true := fun c hc =>
    isDigit_of_mem_toDigits (n := d.digits)
      (hzeros.symm ▸ List.mem_append_left _ hc : c ∈ digitChars d.digits)
  have hne : stripZeros (digitChars d.digits) ≠ [] := by
    intro hnil
    have hpos := h.pos_of_covers hcovers
    have hzero : digitsValue [] * 10 ^ zeros = 0 := Nat.zero_mul _
    rw [← hvalue, hnil, hzero] at hpos
    exact absurd hpos (lt_irrefl 0)
  have hlaid := denotes_layOut hne hdigits ((digitChars d.digits).length + d.place)
  -- the zeros that are left out are counted in the place of the point
  have hplace : (((digitChars d.digits).length : Int) + d.place) -
      (stripZeros (digitChars d.digits)).length = zeros + d.place := by omega
  have hsame : (d.digits : ℚ) * 10 ^ d.place =
      digitsValue (stripZeros (digitChars d.digits)) * 10 ^ ((zeros : Int) + d.place) := by
    rw [zpow_add₀ (by norm_num), zpow_natCast, ← mul_assoc]
    congr 1
    exact_mod_cast hvalue.symm
  rw [hplace] at hlaid
  rw [hsame]
  exact hlaid

/-- The text of a double is read as that double. -/
theorem readNumber?_floatText (x : Float) :
    ∃ n, readNumber? (floatText x).toList = some n ∧ n.toFloat = x := by
  have hx := FloatClass.toFloat_classify x
  unfold floatText
  cases hclass : classify x with
  | nan =>
    rw [hclass] at hx
    exact ⟨.nan, rfl, by rw [← hx]; decide⟩
  | infinite negative =>
    rw [hclass] at hx
    refine ⟨.infinite negative, ?_, ?_⟩
    · cases negative <;> rfl
    · rw [← hx]
      cases negative <;> decide
  | finite negative b =>
    rw [hclass] at hx
    have hsign (text : String) : ((if negative then "-" else "") ++ text).toList =
        (if negative then ['-'] else []) ++ text.toList := by
      rw [String.toList_append]
      cases negative <;> rfl
    dsimp only
    split
    · next hzero =>
      refine ⟨.decimal negative ['0', '0'] (-1), ?_, ?_⟩
      · rw [hsign]
        cases negative <;> rfl
      · rw [← hx, toFloat_zero hzero]
        cases negative <;> decide
    · next hne =>
      -- the digits denote the shortest decimal of the double, which rounds to it
      have hb := canonical_classify hclass (Nat.pos_of_ne_zero hne)
      obtain ⟨digits, exponent, hread, hdigits, hvalue⟩ :=
        (denotes_shortest hb).readNumber? negative
      refine ⟨_, (congrArg readNumber? (hsign _)).trans hread, ?_⟩
      have hcovers := (Binary.roundsTo_iff hb.pos _ _).mp (Binary.roundsTo_shortest hb)
      rw [← hvalue] at hcovers
      rw [toFloat_decimal hb hdigits hcovers, hx]

/-- The text of a count is read as that count. -/
theorem readNumber?_intText (k : Nat) :
    ∃ n, readNumber? (intText k).toList = some n ∧ n.toNat? = some k := by
  have hdigits : ∀ c ∈ Nat.toDigits 10 k, c.isDigit = true := fun c => isDigit_of_mem_toDigits
  have hparts : Parts (Nat.toDigits 10 k) [] [] [] 0 :=
    ⟨hdigits, Nat.toDigits_ne_nil, fun c hc => absurd hc List.not_mem_nil, .inr ⟨rfl, rfl⟩,
      .inl ⟨rfl, rfl⟩⟩
  have hread := hparts.readDecimal? false
  rw [List.append_nil, List.append_nil] at hread
  rw [intText_natCast, String.toList_ofList]
  cases hcs : Nat.toDigits 10 k with
  | nil => exact absurd hcs Nat.toDigits_ne_nil
  | cons c cs =>
    rw [hcs] at hread
    refine ⟨_, (readNumber?_decimal (hdigits c (hcs ▸ List.mem_cons_self)) false).trans hread, ?_⟩
    rw [← hcs]
    exact congrArg some (digitsValue_toDigits k)

end ChatEngine.Exposition
