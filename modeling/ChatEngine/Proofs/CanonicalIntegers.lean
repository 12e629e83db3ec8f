import ChatEngine.Decimal.Integer
import Mathlib.Algebra.Group.Nat.Defs
import Mathlib.Data.List.TakeWhile

/-!
# Canonical integers

Digits of any script are read as the number they denote, with a sign before them or not, unless
there are more of them than a text may have (`readInt_signed`). So the canonical text of an integer
is read back as that integer, if it is short enough (`Short`). Writing refuses exactly the others, so
whatever is written can be read, and whatever was read can be written. A text that tells a number
fails with it (`Tells`).
-/

namespace ChatEngine.Decimal

open Text

/-! ### Digits -/

lemma isDigit_iff {c : Char} :
    isDigit c = true ↔ ∃ first ∈ decimalZeros, first ≤ c.toNat ∧ c.toNat < first + 10 := by
  rw [isDigit, digitValue?, Option.isSome_map, List.find?_isSome]
  simp

lemma isBlank_of_digit {c : Char} (h : isDigit c = true) : isBlank c = false := by
  obtain ⟨first, hfirst, hlow, hhigh⟩ := isDigit_iff.mp h
  have hapart : ∀ first ∈ decimalZeros, ∀ e ∈ blankRanges, e.2 < first ∨ first + 10 ≤ e.1 := by
    decide
  refine List.any_eq_false.mpr fun e he => ?_
  have hrange := hapart first hfirst e he
  simp only [Bool.and_eq_true, decide_eq_true_eq]
  omega

lemma isMargin_of_digit {c : Char} (h : isDigit c = true) : isMargin c = false := by
  rw [isMargin, isBlank_of_digit h, Bool.false_and]

lemma digit_ne {c mark : Char} (h : isDigit c = true) (hmark : isDigit mark = false) :
    c ≠ mark := by
  rintro rfl
  rw [h] at hmark
  cases hmark

lemma eq_digitChar {c : Char} (h : c.isDigit = true) : ∃ d : Fin 10, c = Nat.digitChar d := by
  rw [Char.isDigit_iff_toNat] at h
  have hzero : '0'.toNat = 48 := rfl
  have hnine : '9'.toNat = 57 := rfl
  have hd : c.toNat - 48 < 10 := by omega
  refine ⟨⟨c.toNat - 48, hd⟩, Char.toNat_inj.mp ?_⟩
  rw [Nat.toNat_digitChar_of_lt_ten hd]
  omega

lemma digitValue?_of_isDigit {c : Char} (h : c.isDigit = true) :
    digitValue? c = some (c.toNat - '0'.toNat) := by
  obtain ⟨d, rfl⟩ := eq_digitChar h
  revert d
  decide

lemma digitValue?_lt {c : Char} {d : Nat} (h : digitValue? c = some d) : d < 10 := by
  obtain ⟨first, hfound, rfl⟩ := Option.map_eq_some_iff.mp h
  have hrange := List.find?_some hfound
  simp only [Bool.and_eq_true, decide_eq_true_eq] at hrange
  omega

lemma isDigit_of_digitValue? {c : Char} {d : Nat} (h : digitValue? c = some d) :
    isDigit c = true := by
  rw [isDigit, h]
  rfl

lemma isDigit_of_mem_toDigits {n : Nat} {c : Char} (h : c ∈ Nat.toDigits 10 n) :
    c.isDigit = true :=
  Nat.isDigit_of_mem_toDigits (by decide) (Nat.le_refl 10) h

lemma digit_of_mem_toDigits {n : Nat} {c : Char} (h : c ∈ Nat.toDigits 10 n) :
    isDigit c = true := by
  rw [isDigit, digitValue?_of_isDigit (isDigit_of_mem_toDigits h)]
  rfl

lemma length_toDigits_le_iff {n k : Nat} (hk : 0 < k) :
    (Nat.toDigits 10 n).length ≤ k ↔ n < Nat.pow 10 k :=
  Nat.length_toDigits_le_iff (by decide) hk

/-! ### Reading digits -/

lemma readDigits?_cons {c : Char} (hc : isDigit c = true) (acc : Nat) (cs : List Char) :
    readDigits? acc (c :: cs) = (digitValue? c).bind fun d => readDigits? (10 * acc + d) cs := by
  rw [readDigits?.eq_def]
  split
  · next heq => cases heq
  · next heq => exact absurd (List.cons.inj heq).1 (digit_ne hc (by decide))
  · next heq =>
    obtain ⟨rfl, rfl⟩ := List.cons.inj heq
    rfl

lemma exists_readDigits? {cs : List Char} (h : ∀ c ∈ cs, isDigit c = true) (acc : Nat) :
    ∃ n, readDigits? acc cs = some n := by
  induction cs generalizing acc with
  | nil => exact ⟨acc, rfl⟩
  | cons c cs ih =>
    obtain ⟨hc, hcs⟩ := List.forall_mem_cons.mp h
    obtain ⟨d, hd⟩ := Option.isSome_iff_exists.mp hc
    rw [readDigits?_cons hc, hd, Option.bind_some]
    exact ih hcs _

lemma exists_readNat? {cs : List Char} (h : ∀ c ∈ cs, isDigit c = true) (hne : cs ≠ []) :
    ∃ n, readNat? cs = some n := by
  cases cs with
  | nil => exact absurd rfl hne
  | cons c cs =>
    obtain ⟨hc, hcs⟩ := List.forall_mem_cons.mp h
    obtain ⟨d, hd⟩ := Option.isSome_iff_exists.mp hc
    rw [readNat?, hd, Option.bind_some]
    exact exists_readDigits? hcs d

lemma readDigits?_of_isDigit {cs : List Char} (h : ∀ c ∈ cs, c.isDigit = true) (acc : Nat) :
    readDigits? acc cs = some (Nat.ofDigitChars 10 cs acc) := by
  induction cs generalizing acc with
  | nil => rfl
  | cons c cs ih =>
    obtain ⟨hc, hcs⟩ := List.forall_mem_cons.mp h
    have hvalue := digitValue?_of_isDigit hc
    have hdigit : isDigit c = true := by
      rw [isDigit, hvalue]
      rfl
    rw [readDigits?_cons hdigit, hvalue, Option.bind_some, ih hcs, Nat.ofDigitChars_cons]

lemma readNat?_toDigits (n : Nat) : readNat? (Nat.toDigits 10 n) = some n := by
  have hback : Nat.ofDigitChars 10 (Nat.toDigits 10 n) 0 = n :=
    Nat.ofDigitChars_toDigits (by decide) (Nat.le_refl 10)
  have hdigits : ∀ c ∈ Nat.toDigits 10 n, c.isDigit = true := fun c => isDigit_of_mem_toDigits
  cases hcs : Nat.toDigits 10 n with
  | nil => exact absurd hcs Nat.toDigits_ne_nil
  | cons c cs =>
    rw [hcs] at hback hdigits
    obtain ⟨hc, hcs⟩ := List.forall_mem_cons.mp hdigits
    rw [Nat.ofDigitChars_cons, Nat.mul_zero, Nat.zero_add] at hback
    rw [readNat?, digitValue?_of_isDigit hc, Option.bind_some, readDigits?_of_isDigit hcs, hback]

lemma dropWhile_of_margins {cs : List Char} (h : ∀ c ∈ cs, isMargin c = false) :
    cs.dropWhile isMargin = cs := by
  rw [List.dropWhile_eq_self_iff]
  intro hpos
  rw [h _ (List.getElem_mem hpos)]
  exact Bool.false_ne_true

lemma splitSign_digits {digits : List Char} (h : ∀ c ∈ digits, isDigit c = true) :
    splitSign digits = (false, digits) := by
  unfold splitSign
  split
  · exact absurd rfl (digit_ne (h '-' List.mem_cons_self) (by decide))
  · exact absurd rfl (digit_ne (h '+' List.mem_cons_self) (by decide))
  · rfl

/-- Digits with or without a sign are read as the integer they denote, unless there are too many. -/
lemma readInt_signed {s : String} {negative : Bool} {digits : List Char} {n : Nat}
    (margins : ∀ c ∈ s.toList, isMargin c = false)
    (sign : splitSign s.toList = (negative, digits))
    (hdigits : ∀ c ∈ digits, isDigit c = true) (value : readNat? digits = some n) :
    readInt s = if maxDigits < digits.length then .error (.tooLong digits.length)
      else .ok (if negative then -(n : Int) else n) := by
  have hinner : ((s.toList.dropWhile isMargin).reverse.dropWhile isMargin).reverse =
      s.toList := by
    rw [dropWhile_of_margins margins, dropWhile_of_margins, List.reverse_reverse]
    exact fun c hc => margins c (List.mem_reverse.mp hc)
  have hrun : digits.takeWhile (fun c => isDigit c || c == '_') = digits :=
    List.takeWhile_eq_self_iff.mpr fun c hc => by rw [hdigits c hc, Bool.true_or]
  have hcount : digits.countP (· ≠ '_') = digits.length :=
    List.countP_eq_length.mpr fun c hc => decide_eq_true (digit_ne (hdigits c hc) (by decide))
  unfold readInt
  rw [hinner]
  dsimp only
  rw [sign]
  dsimp only
  rw [hrun, value]
  dsimp only
  rw [hcount, if_neg (Nat.lt_irrefl _)]

lemma readInt_of_readNat? {digits : List Char} (h : ∀ c ∈ digits, isDigit c = true) {n : Nat}
    (value : readNat? digits = some n) :
    readInt (String.ofList digits) =
      if maxDigits < digits.length then .error (.tooLong digits.length) else .ok n := by
  have hsign : splitSign (String.ofList digits).toList = (false, digits) := by
    rw [String.toList_ofList]
    exact splitSign_digits h
  refine readInt_signed ?_ hsign h value
  rw [String.toList_ofList]
  exact fun c hc => isMargin_of_digit (h c hc)

lemma readInt_digits {digits : List Char} (h : ∀ c ∈ digits, isDigit c = true)
    (hne : digits ≠ []) :
    ∃ n : Nat, readInt (String.ofList digits) =
      if maxDigits < digits.length then .error (.tooLong digits.length) else .ok n := by
  obtain ⟨n, hn⟩ := exists_readNat? h hne
  exact ⟨n, readInt_of_readNat? h hn⟩

/-! ### Reading what was written -/

lemma toList_intText (n : Int) :
    (intText n).toList = (if n < 0 then ['-'] else []) ++ Nat.toDigits 10 n.natAbs := by
  change (Int.repr n).toList = _
  rw [Int.repr_eq_if]
  by_cases hn : 0 ≤ n
  · rw [if_pos hn, if_neg (by omega), show n.toNat = n.natAbs by omega]
    exact String.toList_ofList
  · rw [if_neg hn, if_pos (by omega), String.toList_append,
      show (-n).toNat = n.natAbs by omega]
    exact congrArg _ String.toList_ofList

/-- The text of an integer has digits and at most a minus sign. -/
lemma ne_of_mem_intText {n : Int} {c mark : Char} (h : c ∈ (intText n).toList)
    (hmark : isDigit mark = false) (hminus : mark ≠ '-') : c ≠ mark := by
  rw [toList_intText, List.mem_append] at h
  rcases h with hsign | hdigit
  · split at hsign
    · rw [List.mem_singleton.mp hsign]
      exact hminus.symm
    · cases hsign
  · exact digit_ne (digit_of_mem_toDigits hdigit) hmark

lemma intText_natCast (n : Nat) : intText n = String.ofList (Nat.toDigits 10 n) := by
  rw [← String.toList_inj, toList_intText, String.toList_ofList, if_neg (by omega)]
  rfl

lemma splitSign_intText (n : Int) :
    splitSign (intText n).toList = (decide (n < 0), Nat.toDigits 10 n.natAbs) := by
  rw [toList_intText]
  by_cases hn : n < 0
  · rw [if_pos hn, decide_eq_true hn]
    rfl
  · rw [if_neg hn, decide_eq_false hn, List.nil_append]
    exact splitSign_digits fun c => digit_of_mem_toDigits

/-- The canonical text of an integer that is small enough is read as that integer. -/
theorem readInt_intText {n : Int} (short : (Nat.toDigits 10 n.natAbs).length ≤ maxDigits) :
    readInt (intText n) = .ok n := by
  have hmargins : ∀ c ∈ (intText n).toList, isMargin c = false := by
    intro c hc
    rw [toList_intText, List.mem_append] at hc
    rcases hc with hsign | hdigit
    · split at hsign
      · rw [List.mem_singleton.mp hsign]
        decide
      · cases hsign
    · exact isMargin_of_digit (digit_of_mem_toDigits hdigit)
  rw [readInt_signed hmargins (splitSign_intText n) (fun c => digit_of_mem_toDigits)
    (readNat?_toDigits _), if_neg (Nat.not_lt.mpr short)]
  by_cases hn : n < 0
  · rw [decide_eq_true hn, if_pos rfl]
    exact congrArg _ (by omega)
  · rw [decide_eq_false hn, if_neg Bool.false_ne_true]
    exact congrArg _ (by omega)

/-! ### Integers that have a text -/

/-- Whether an integer has a text: it has no more digits than a text may have. -/
def Short (n : Int) : Prop := (Nat.toDigits 10 n.natAbs).length ≤ maxDigits

lemma short_iff {n : Int} : Short n ↔ n.natAbs < Nat.pow 10 maxDigits :=
  length_toDigits_le_iff (by decide)

/-- The first integers on both sides of zero that have one digit too many. -/
lemma not_short_pow :
    ¬Short (Nat.pow 10 maxDigits : Nat) ∧ ¬Short (-(Nat.pow 10 maxDigits : Nat)) := by
  rw [short_iff, short_iff, Int.natAbs_neg, Int.natAbs_natCast]
  exact ⟨Nat.lt_irrefl _, Nat.lt_irrefl _⟩

lemma writeInt_short {n : Int} (short : Short n) : writeInt n = .ok (intText n) :=
  if_pos (short_iff.mp short)

lemma writeInt_long {n : Int} (long : ¬Short n) : writeInt n = .error .tooLarge :=
  if_neg (mt short_iff.mpr long)

/-- What is written is canonical, and is read as what it was written for. -/
theorem writeInt_eq_ok {n : Int} {text : String} (h : writeInt n = .ok text) :
    text = intText n ∧ readInt text = .ok n := by
  by_cases short : Short n
  · rw [writeInt_short short] at h
    cases h
    exact ⟨rfl, readInt_intText short⟩
  · rw [writeInt_long short] at h
    cases h

lemma lt_of_next_digit {acc d n k : Nat} (hd : d < 10) (h : n < (10 * acc + d + 1) * 10 ^ k) :
    n < (acc + 1) * 10 ^ (k + 1) := by
  rw [Nat.pow_succ', ← Nat.mul_assoc]
  exact Nat.lt_of_lt_of_le h (Nat.mul_le_mul_right _ (by omega))

lemma readDigits?_lt {cs : List Char} {acc n : Nat} (h : readDigits? acc cs = some n) :
    n < (acc + 1) * 10 ^ cs.countP (· ≠ '_') := by
  fun_induction readDigits? acc cs with
  | case1 acc =>
    cases h
    simp
  | case2 acc c cs ih =>
    obtain ⟨d, hd, hrest⟩ := Option.bind_eq_some_iff.mp h
    have hc : c ≠ '_' := digit_ne (isDigit_of_digitValue? hd) (by decide)
    rw [List.countP_cons_of_neg (by simp), List.countP_cons_of_pos (by simpa using hc)]
    exact lt_of_next_digit (digitValue?_lt hd) (ih d hrest)
  | case3 acc c cs _ ih =>
    obtain ⟨d, hd, hrest⟩ := Option.bind_eq_some_iff.mp h
    have hc : c ≠ '_' := digit_ne (isDigit_of_digitValue? hd) (by decide)
    rw [List.countP_cons_of_pos (by simpa using hc)]
    exact lt_of_next_digit (digitValue?_lt hd) (ih d hrest)

/-- A number is below the power of ten that has as many digits as are written of it. -/
lemma readNat?_lt {cs : List Char} {n : Nat} (h : readNat? cs = some n) :
    n < 10 ^ cs.countP (· ≠ '_') := by
  cases cs with
  | nil => cases h
  | cons c cs =>
    obtain ⟨d, hd, hrest⟩ := Option.bind_eq_some_iff.mp h
    have hc : c ≠ '_' := digit_ne (isDigit_of_digitValue? hd) (by decide)
    have hlt := readDigits?_lt hrest
    rw [List.countP_cons_of_pos (by simpa using hc)]
    have hfirst : n < (0 + 1) * 10 ^ (_ + 1) :=
      lt_of_next_digit (digitValue?_lt hd) (by rwa [Nat.mul_zero, Nat.zero_add])
    rwa [Nat.zero_add, Nat.one_mul] at hfirst

/-- What was read can be written. -/
theorem short_of_readInt {s : String} {n : Int} (h : readInt s = .ok n) : Short n := by
  have hsigned (negative : Bool) (m : Nat) :
      (if negative then -(m : Int) else m).natAbs = m := by
    cases negative <;> simp
  rw [short_iff]
  unfold readInt at h
  generalize maxDigits = most at h ⊢
  dsimp only at h
  split at h
  · cases h
  · next m hm =>
    split at h
    · cases h
    · next hfew =>
      split at h
      · cases h
      · rw [← Except.ok.inj h, hsigned]
        exact Nat.lt_of_lt_of_le (readNat?_lt hm)
          (Nat.pow_le_pow_right (by decide) (Nat.not_lt.mp hfew))

/-! ### Texts with a number in them -/

/-- Whether a text tells a number, or none: there is a text if the number has one. -/
inductive Tells : Option Int → Except IntegerError String → Prop
  | told {told : Option Int} {text : String} (short : ∀ n ∈ told, Short n) : Tells told (.ok text)
  | untold {n : Int} (long : ¬Short n) : Tells (some n) (.error .tooLarge)

lemma writeInt_tells (n : Int) : Tells (some n) (writeInt n) := by
  by_cases short : Short n
  · rw [writeInt_short short]
    exact .told fun _ hn => Option.mem_some.mp hn ▸ short
  · rw [writeInt_long short]
    exact .untold short

lemma Tells.map {told : Option Int} {text : Except IntegerError String} (h : Tells told text)
    (f : String → String) : Tells told (text.map f) := by
  cases h with
  | told short => exact .told short
  | untold long => exact .untold long

end ChatEngine.Decimal
