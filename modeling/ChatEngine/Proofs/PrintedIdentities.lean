import ChatEngine.ActionId
import ChatEngine.Proofs.CanonicalIntegers

/-!
# Printed identities

A printed identity tells the plugin, what it offers and the place, whatever the plugin is called. A
name may have dots and brackets in it and may itself look like an identity, so what is printed is
read from its right end: the place has no bracket in it and stands behind the last opening one, the
kind has no dot in it and stands behind the last dot before that, and the rest is the name.
-/

namespace ChatEngine

/-! ### The last mark -/

section
variable {α : Type} {mark : α} {a b c d : List α}

lemma eq_nil_of_mark (hc : mark ∉ c) (h : mark :: c = a ++ mark :: d) : a = [] := by
  cases a with
  | nil => rfl
  | cons x a =>
    rw [List.cons_append, List.cons.injEq] at h
    exact absurd (h.2 ▸ List.mem_append_right a List.mem_cons_self) hc

/-- A list is parted in one way only at its last mark. -/
lemma append_mark_inj (hc : mark ∉ c) (hd : mark ∉ d) (h : a ++ mark :: c = b ++ mark :: d) :
    a = b ∧ c = d := by
  have hab : a = b := by
    obtain ⟨middle, rfl, hrest⟩ | ⟨middle, rfl, hrest⟩ := List.append_eq_append_iff.mp h
    · rw [eq_nil_of_mark hc hrest, List.append_nil]
    · rw [eq_nil_of_mark hd hrest, List.append_nil]
  subst hab
  exact ⟨rfl, (List.cons.inj (List.append_cancel_left h)).2⟩

end

/-! ### Places -/

namespace Decimal

lemma toDigits_injective : Function.Injective (Nat.toDigits 10) := by
  intro m n h
  have hback (k : Nat) : Nat.ofDigitChars 10 (Nat.toDigits 10 k) 0 = k :=
    Nat.ofDigitChars_toDigits (by decide) (Nat.le_refl 10)
  rw [← hback m, h, hback n]

lemma intText_injective : Function.Injective intText := by
  intro m n h
  have hsigned : splitSign (intText m).toList = splitSign (intText n).toList := by rw [h]
  rw [splitSign_intText, splitSign_intText, Prod.mk.injEq] at hsigned
  have hnegative : m < 0 ↔ n < 0 := decide_eq_decide.mp hsigned.1
  have hdigits := toDigits_injective hsigned.2
  omega

end Decimal

namespace ActionId

/-! ### What is printed -/

lemma toList_printed (plugin offer : String) (index : Int) :
    (printed plugin offer index).toList =
      (plugin.toList ++ '.' :: offer.toList) ++ '[' :: ((Decimal.intText index).toList ++ [']']) := by
  simp [printed]

lemma not_mem_place (index : Int) : '[' ∉ (Decimal.intText index).toList ++ [']'] := by
  intro h
  rcases List.mem_append.mp h with hdigit | hbracket
  · exact Decimal.ne_of_mem_intText hdigit (by decide) (by decide) rfl
  · exact absurd (List.mem_singleton.mp hbracket) (by decide)

/-- What is printed is read from its right end. -/
theorem printed_inj {p q offer other : String} {i j : Int} (hoffer : '.' ∉ offer.toList)
    (hother : '.' ∉ other.toList) (h : printed p offer i = printed q other j) :
    p = q ∧ offer = other ∧ i = j := by
  have hlists := congrArg String.toList h
  rw [toList_printed, toList_printed] at hlists
  obtain ⟨hfront, hplace⟩ := append_mark_inj (not_mem_place i) (not_mem_place j) hlists
  obtain ⟨hname, hkind⟩ := append_mark_inj hoffer hother hfront
  exact ⟨String.toList_inj.mp hname, String.toList_inj.mp hkind,
    Decimal.intText_injective (String.toList_inj.mp (List.append_cancel_right hplace))⟩

lemma not_mem_kind (kind : ActionKind) : '.' ∉ kind.text.toList := by
  cases kind <;> decide

lemma kind_text_injective : Function.Injective ActionKind.text := by
  intro k l h
  cases k <;> cases l <;> first | rfl | exact absurd h (by decide)

lemma kind_text_ne_scheduled (kind : ActionKind) : kind.text ≠ "scheduled" := by
  cases kind <;> decide

lemma printed_kind_inj {p q : String} {k l : ActionKind} {i j : Int}
    (h : printed p k.text i = printed q l.text j) : p = q ∧ k = l ∧ i = j := by
  obtain ⟨hname, hkind, hplace⟩ := printed_inj (not_mem_kind k) (not_mem_kind l) h
  exact ⟨hname, kind_text_injective hkind, hplace⟩

lemma printed_kind_ne_scheduled {p q : String} {k : ActionKind} {i j : Int} :
    printed p k.text i ≠ printed q "scheduled" j := fun h =>
  kind_text_ne_scheduled k (printed_inj (not_mem_kind k) (by decide) h).2.1

lemma text_injective : Function.Injective text := by
  intro id other h
  obtain ⟨hname, hkind, hplace⟩ := printed_kind_inj h
  cases id
  cases other
  rw [ActionId.mk.injEq]
  exact ⟨hname, hkind, Int.ofNat_inj.mp hplace⟩

/-- The identity of a job tells its plugin and its place. -/
lemma jobText_inj {p q : String} {m n : Nat} (h : jobText p m = jobText q n) : p = q ∧ m = n := by
  obtain ⟨hname, -, hplace⟩ := printed_inj (by decide) (by decide) h
  exact ⟨hname, Int.ofNat_inj.mp hplace⟩

end ActionId

end ChatEngine
