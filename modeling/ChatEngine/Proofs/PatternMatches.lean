import ChatEngine.Text.Pattern
import Mathlib.Data.List.Basic
import Mathlib.Data.List.Infix

/-!
# Matches of patterns

The texts that a pattern matches (`Pattern.Matches`), and what searching and replacing do in terms of
them. A pattern occurs in a text exactly if one of its texts stands in it. Replacing every match puts
masks between pieces of the old text, and no match reaches over a mask whose ends the pattern cannot
match; so a pattern that does not occur in the old text outside of the replaced matches does not
occur in the new one.
-/

namespace ChatEngine.Text.Pattern

/-! ### Texts of a pattern -/

/-- The texts that a pattern matches. -/
inductive Matches : Pattern → List Char → Prop
  | done : Matches .done []
  | one {test : Char → Bool} {c : Char} (passes : test c = true) : Matches (.one test) [c]
  | many {test : Char → Bool} {atLeast : Nat} {word : List Char}
      (pass : ∀ c ∈ word, test c = true) (enough : atLeast ≤ word.length) :
      Matches (.many test atLeast) word
  | seq {p q : Pattern} {u v : List Char} (first : Matches p u) (second : Matches q v) :
      Matches (.seq p q) (u ++ v)
  | left {p q : Pattern} {word : List Char} (first : Matches p word) : Matches (.alt p q) word
  | right {p q : Pattern} {word : List Char} (second : Matches q word) : Matches (.alt p q) word

/-- A run at the start of a text is empty or takes the first character. -/
lemma exists_run_cons {test : Char → Bool} {atLeast : Nat} {c : Char} {cs rest : List Char} :
    (∃ word, (∀ d ∈ word, test d = true) ∧ atLeast ≤ word.length ∧ c :: cs = word ++ rest) ↔
      (atLeast = 0 ∧ rest = c :: cs) ∨
        test c = true ∧
          ∃ word, (∀ d ∈ word, test d = true) ∧ atLeast - 1 ≤ word.length ∧ cs = word ++ rest := by
  constructor
  · rintro ⟨word, pass, enough, htext⟩
    cases word with
    | nil => exact .inl ⟨Nat.le_zero.mp enough, htext.symm⟩
    | cons d word =>
      rw [List.cons_append] at htext
      obtain ⟨rfl, hword⟩ := List.cons.inj htext
      have hpass : ∀ e ∈ word, test e = true := fun e he => pass e (List.mem_cons_of_mem _ he)
      rw [List.length_cons] at enough
      exact .inr ⟨pass c List.mem_cons_self, word, hpass, by omega, hword⟩
  · rintro (⟨rfl, rfl⟩ | ⟨hc, word, pass, enough, rfl⟩)
    · exact ⟨[], by simp⟩
    · refine ⟨c :: word, ?_, ?_, rfl⟩
      · exact List.forall_mem_cons.mpr ⟨hc, pass⟩
      · rw [List.length_cons]
        omega

/-- The runs of a class that are tried: all that are long enough, at the start of the text. -/
lemma mem_runRests {test : Char → Bool} {rest : List Char} {shorter : List (List Char)}
    {atLeast : Nat} {cs : List Char} :
    rest ∈ runRests test shorter atLeast cs ↔
      rest ∈ shorter ∨
        ∃ word, (∀ c ∈ word, test c = true) ∧ atLeast ≤ word.length ∧ cs = word ++ rest := by
  induction cs generalizing shorter atLeast with
  | nil =>
    cases atLeast with
    | zero => simp [runRests, or_comm]
    | succ n => simp [runRests]
  | cons c cs ih =>
    rw [exists_run_cons]
    cases atLeast with
    | zero =>
      by_cases hc : test c = true
      · rw [runRests, if_pos hc, ih]
        grind
      · rw [runRests, if_neg hc]
        grind
    | succ n =>
      by_cases hc : test c = true
      · rw [runRests, if_pos hc, ih]
        grind
      · rw [runRests, if_neg hc]
        grind

/-- A pattern leaves over what follows one of its texts. -/
theorem mem_rests {p : Pattern} {cs rest : List Char} :
    rest ∈ p.rests cs ↔ ∃ word, p.Matches word ∧ cs = word ++ rest := by
  induction p generalizing cs rest with
  | done =>
    rw [rests, List.mem_singleton]
    constructor
    · rintro rfl
      exact ⟨[], .done, rfl⟩
    · rintro ⟨word, ⟨⟩, htext⟩
      exact htext.symm
  | one test =>
    constructor
    · intro h
      cases cs with
      | nil => cases h
      | cons c cs =>
        unfold rests at h
        split at h
        · next hc =>
          rw [List.mem_singleton.mp h]
          exact ⟨[c], .one hc, rfl⟩
        · cases h
    · rintro ⟨word, hword, rfl⟩
      cases hword with
      | one hc => simp [rests, hc]
  | many test atLeast =>
    rw [rests, mem_runRests]
    constructor
    · rintro (h | ⟨word, pass, enough, htext⟩)
      · cases h
      · exact ⟨word, .many pass enough, htext⟩
    · rintro ⟨word, hword, htext⟩
      cases hword with
      | many pass enough => exact .inr ⟨word, pass, enough, htext⟩
  | seq p q ihp ihq =>
    rw [rests, List.mem_flatMap]
    constructor
    · rintro ⟨between, hfirst, hsecond⟩
      obtain ⟨u, hu, rfl⟩ := ihp.mp hfirst
      obtain ⟨v, hv, rfl⟩ := ihq.mp hsecond
      exact ⟨u ++ v, .seq hu hv, (List.append_assoc u v rest).symm⟩
    · rintro ⟨word, hword, rfl⟩
      cases hword with
      | @seq _ _ u v hu hv =>
        exact ⟨v ++ rest, ihp.mpr ⟨u, hu, List.append_assoc u v rest⟩, ihq.mpr ⟨v, hv, rfl⟩⟩
  | alt p q ihp ihq =>
    rw [rests, List.mem_append, ihp, ihq]
    constructor
    · rintro (⟨word, hword, htext⟩ | ⟨word, hword, htext⟩)
      · exact ⟨word, .left hword, htext⟩
      · exact ⟨word, .right hword, htext⟩
    · rintro ⟨word, hword, htext⟩
      cases hword with
      | left hword => exact .inl ⟨word, hword, htext⟩
      | right hword => exact .inr ⟨word, hword, htext⟩

/-- Nothing is found at the start of a text exactly if no text of the pattern stands there. -/
lemma rest?_eq_none_iff {p : Pattern} {cs : List Char} :
    p.rest? cs = none ↔ ∀ word, p.Matches word → ¬word <+: cs := by
  rw [rest?, List.head?_eq_none_iff, List.eq_nil_iff_forall_not_mem]
  constructor
  · rintro h word hword ⟨rest, rfl⟩
    exact h rest (mem_rests.mpr ⟨word, hword, rfl⟩)
  · intro h rest hrest
    obtain ⟨word, hword, rfl⟩ := mem_rests.mp hrest
    exact h word hword (List.prefix_append word rest)

/-- What is found at the start of a text is a text of the pattern. -/
lemma exists_of_rest? {p : Pattern} {cs rest : List Char} (h : p.rest? cs = some rest) :
    ∃ word, p.Matches word ∧ cs = word ++ rest :=
  mem_rests.mp (List.mem_of_head? h)

lemma length_lt_of_rest? {p : Pattern} (nonempty : p.rest? [] = none) {cs rest : List Char}
    (h : p.rest? cs = some rest) : rest.length < cs.length := by
  obtain ⟨word, hword, rfl⟩ := exists_of_rest? h
  have hne : word ≠ [] := by
    rintro rfl
    exact rest?_eq_none_iff.mp nonempty [] hword List.nil_prefix
  have hpositive := List.length_pos_iff.mpr hne
  rw [List.length_append]
  omega

/-- A pattern occurs nowhere exactly if none of its texts stands anywhere. -/
theorem occurs_eq_false_iff {p : Pattern} {cs : List Char} :
    p.occurs cs = false ↔ ∀ word, p.Matches word → ¬word <:+: cs := by
  induction cs with
  | nil =>
    have hnil : p.occurs [] = (p.rest? []).isSome := rfl
    rw [hnil, Option.isSome_eq_false_iff, Option.isNone_iff_eq_none, rest?_eq_none_iff]
    simp only [List.prefix_nil, List.infix_nil]
  | cons c cs ih =>
    rw [occurs, Bool.or_eq_false_iff, ih, Option.isSome_eq_false_iff, Option.isNone_iff_eq_none,
      rest?_eq_none_iff]
    simp only [List.infix_cons_iff, not_or]
    exact ⟨fun h word hword => ⟨h.1 word hword, h.2 word hword⟩,
      fun h => ⟨fun word hword => (h word hword).1, fun word hword => (h word hword).2⟩⟩

/-! ### Masks -/

/-- Whether a pattern has no text with the character. -/
def avoids (c : Char) : Pattern → Bool
  | done => true
  | one test => !test c
  | many test _ => !test c
  | seq p q => p.avoids c && q.avoids c
  | alt p q => p.avoids c && q.avoids c

lemma Matches.not_mem {p : Pattern} {word : List Char} {c : Char} (h : p.Matches word)
    (avoids : p.avoids c = true) : c ∉ word := by
  induction h with
  | done => exact List.not_mem_nil
  | one passes =>
    rintro hc
    rw [List.mem_singleton.mp hc, Pattern.avoids, passes] at avoids
    cases avoids
  | many pass enough =>
    intro hc
    rw [Pattern.avoids, pass c hc] at avoids
    cases avoids
  | seq first second ihp ihq =>
    obtain ⟨hp, hq⟩ := Bool.and_eq_true_iff.mp avoids
    rw [List.mem_append, not_or]
    exact ⟨ihp hp, ihq hq⟩
  | left first ih => exact ih (Bool.and_eq_true_iff.mp avoids).1
  | right second ih => exact ih (Bool.and_eq_true_iff.mp avoids).2

lemma prefix_of_prefix_append {word text after : List Char} {c : Char} (hc : c ∉ word)
    (h : word <+: text ++ c :: after) : word <+: text := by
  induction text generalizing word with
  | nil =>
    rcases List.prefix_cons_iff.mp h with rfl | ⟨rest, rfl, -⟩
    · exact List.nil_prefix
    · exact absurd List.mem_cons_self hc
  | cons d text ih =>
    rcases List.prefix_cons_iff.mp h with rfl | ⟨rest, rfl, hrest⟩
    · exact List.nil_prefix
    · exact (List.prefix_cons_inj d).mpr (ih (fun h => hc (List.mem_cons_of_mem d h)) hrest)

/-- A word stands on one side of a character that is not in it. -/
lemma infix_of_infix_append {word before after : List Char} {c : Char} (hc : c ∉ word)
    (h : word <:+: before ++ c :: after) : word <:+: before ∨ word <:+: after := by
  induction before with
  | nil =>
    rcases List.infix_cons_iff.mp h with hstart | hinfix
    · have hword : word <+: [] := prefix_of_prefix_append hc hstart
      exact .inl hword.isInfix
    · exact .inr hinfix
  | cons d before ih =>
    rcases List.infix_cons_iff.mp h with hstart | hinfix
    · have hword : word <+: d :: before := prefix_of_prefix_append hc hstart
      exact .inl hword.isInfix
    · exact (ih hinfix).imp_left fun h => h.trans (List.suffix_cons d before).isInfix

/-- A text that no match reaches into. -/
def Shuns (p : Pattern) (mask : List Char) : Prop :=
  ∀ before after, p.occurs before = false → p.occurs after = false →
    p.occurs (before ++ mask ++ after) = false

lemma occurs_append_cons {p : Pattern} {c : Char} (avoids : p.avoids c = true)
    {before after : List Char} (hbefore : p.occurs before = false)
    (hafter : p.occurs after = false) : p.occurs (before ++ c :: after) = false := by
  rw [occurs_eq_false_iff] at hbefore hafter ⊢
  intro word hword hinfix
  rcases infix_of_infix_append (hword.not_mem avoids) hinfix with h | h
  · exact hbefore word hword h
  · exact hafter word hword h

/-- A mask is shunned if neither of its ends is in a text of the pattern and none stands between
them. -/
lemma shuns_of_avoids {p : Pattern} {first last : Char} {inner : List Char}
    (hfirst : p.avoids first = true) (hlast : p.avoids last = true)
    (hinner : p.occurs inner = false) : p.Shuns (first :: inner ++ [last]) := by
  intro before after hbefore hafter
  have hrest := occurs_append_cons hlast hinner hafter
  have hall := occurs_append_cons hfirst hbefore hrest
  simpa using hall

/-! ### Replacing -/

lemma replace_nil {p : Pattern} (nonempty : p.rest? [] = none) (make : List Char → List Char) :
    p.replace make [] = [] := by
  rw [replace, nonempty]

lemma replace_of_none {p : Pattern} {c : Char} {cs : List Char} (h : p.rest? (c :: cs) = none)
    (make : List Char → List Char) : p.replace make (c :: cs) = c :: p.replace make cs := by
  rw [replace, h]

lemma replace_of_some {p : Pattern} (nonempty : p.rest? [] = none) {c : Char}
    {cs rest : List Char} (h : p.rest? (c :: cs) = some rest) (mask : List Char) :
    p.replace (fun _ => mask) (c :: cs) = mask ++ p.replace (fun _ => mask) rest := by
  rw [replace, h]
  dsimp only
  rw [if_pos (length_lt_of_rest? nonempty h)]

/-- Where a pattern occurs nowhere, nothing is replaced. -/
lemma replace_of_not_occurs {p : Pattern} {cs : List Char} (h : p.occurs cs = false)
    (make : List Char → List Char) : p.replace make cs = cs := by
  induction cs with
  | nil =>
    have hnil : p.occurs [] = (p.rest? []).isSome := rfl
    rw [hnil, Option.isSome_eq_false_iff, Option.isNone_iff_eq_none] at h
    exact replace_nil h make
  | cons c cs ih =>
    rw [occurs, Bool.or_eq_false_iff, Option.isSome_eq_false_iff, Option.isNone_iff_eq_none] at h
    rw [replace_of_none h.1, ih h.2]

lemma occurs_of_untouched {p : Pattern} {before after : List Char} (nonempty : p.rest? [] = none)
    (untouched : ∀ tail, tail <:+ before → tail ≠ [] → p.rest? (tail ++ after) = none) :
    p.occurs before = false := by
  rw [occurs_eq_false_iff]
  rintro word hword ⟨left, right, rfl⟩
  have hne : word ++ right ≠ [] := by
    intro h
    rw [(List.append_eq_nil_iff.mp h).1] at hword
    exact rest?_eq_none_iff.mp nonempty [] hword List.nil_prefix
  have htail : word ++ right <:+ left ++ word ++ right := by
    rw [List.append_assoc]
    exact List.suffix_append left (word ++ right)
  have hstart : word <+: word ++ right ++ after := by
    rw [List.append_assoc]
    exact List.prefix_append word (right ++ after)
  exact rest?_eq_none_iff.mp (untouched _ htail hne) word hword hstart

/-- Replacing the matches of `q` by a mask leaves `p` nowhere, if `p` starts in the old text only
where `q` is found and shuns the mask. The text `before` was passed without a match. -/
lemma occurs_append_replace {p q : Pattern} {mask : List Char} (shuns : p.Shuns mask)
    (nonempty : q.rest? [] = none) {cs before : List Char}
    (sparing : ∀ tail, tail <:+ cs → q.rest? tail = none → p.rest? tail = none)
    (untouched : ∀ tail, tail <:+ before → tail ≠ [] → p.rest? (tail ++ cs) = none) :
    p.occurs (before ++ q.replace (fun _ => mask) cs) = false := by
  induction hn : cs.length using Nat.strong_induction_on generalizing cs before with
  | _ n ih =>
  have hp : p.rest? [] = none := sparing [] List.nil_suffix nonempty
  have hbefore : p.occurs before = false := occurs_of_untouched hp untouched
  cases cs with
  | nil => rwa [replace_nil nonempty, List.append_nil]
  | cons c cs =>
    cases hfound : q.rest? (c :: cs) with
    | none =>
      have hc := sparing (c :: cs) List.suffix_rfl hfound
      have hrest : p.occurs (before ++ [c] ++ q.replace (fun _ => mask) cs) = false := by
        refine ih cs.length (by rw [← hn, List.length_cons]; omega) ?_ ?_ rfl
        · exact fun tail htail => sparing tail (htail.trans (List.suffix_cons c cs))
        · intro tail htail hne
          rcases List.suffix_concat_iff.mp htail with rfl | ⟨front, rfl, hfront⟩
          · exact absurd rfl hne
          · rw [List.append_assoc, List.singleton_append]
            by_cases hempty : front = []
            · rw [hempty]
              exact hc
            · exact untouched front hfront hempty
      rw [replace_of_none hfound]
      simpa using hrest
    | some rest =>
      obtain ⟨word, -, htext⟩ := exists_of_rest? hfound
      have hsuffix : rest <:+ c :: cs := ⟨word, htext.symm⟩
      have hrest : p.occurs ([] ++ q.replace (fun _ => mask) rest) = false := by
        refine ih rest.length (hn ▸ length_lt_of_rest? nonempty hfound) ?_ ?_ rfl
        · exact fun tail htail => sparing tail (htail.trans hsuffix)
        · intro tail htail hne
          exact absurd (List.suffix_nil.mp htail) hne
      rw [replace_of_some nonempty hfound, ← List.append_assoc]
      exact shuns _ _ hbefore hrest

lemma occurs_replace_of_sparing {p q : Pattern} {mask : List Char} (shuns : p.Shuns mask)
    (nonempty : q.rest? [] = none) {cs : List Char}
    (sparing : ∀ tail, tail <:+ cs → q.rest? tail = none → p.rest? tail = none) :
    p.occurs (q.replace (fun _ => mask) cs) = false := by
  have hall : p.occurs ([] ++ q.replace (fun _ => mask) cs) = false := by
    apply occurs_append_replace shuns nonempty sparing
    intro tail htail hne
    exact absurd (List.suffix_nil.mp htail) hne
  rwa [List.nil_append] at hall

/-- After replacing its matches by a mask that it shuns, a pattern occurs nowhere. -/
theorem occurs_replace_self {p : Pattern} {mask : List Char} (shuns : p.Shuns mask)
    (nonempty : p.rest? [] = none) (cs : List Char) :
    p.occurs (p.replace (fun _ => mask) cs) = false :=
  occurs_replace_of_sparing shuns nonempty fun _ _ hnone => hnone

/-- Replacing the matches of another pattern by a mask that it shuns makes a pattern occur nowhere
that did not occur before. -/
theorem occurs_replace {p q : Pattern} {mask : List Char} (shuns : p.Shuns mask)
    (nonempty : q.rest? [] = none) {cs : List Char} (h : p.occurs cs = false) :
    p.occurs (q.replace (fun _ => mask) cs) = false := by
  apply occurs_replace_of_sparing shuns nonempty
  intro tail htail _
  rw [rest?_eq_none_iff]
  intro word hword hstart
  exact occurs_eq_false_iff.mp h word hword (hstart.isInfix.trans htail.isInfix)

end ChatEngine.Text.Pattern
