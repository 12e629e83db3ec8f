import ChatEngine.Text.Trim
import Mathlib.Data.List.TakeWhile

/-!
# Trimmed texts

Trimming cuts a text down to what stands between its surrounding blanks, and nothing else: what it
leaves has no blanks around it (`trimmed_trimChars`), and is determined by that (`trimChars_eq`).
-/

namespace ChatEngine.Text

/-- Whether there are blanks only. -/
def Blank (cs : List Char) : Prop := ∀ c ∈ cs, isBlank c = true

/-- Whether there are no blanks around the characters. -/
structure Trimmed (cs : List Char) : Prop where
  first : ∀ c ∈ cs.head?, isBlank c = false
  last : ∀ c ∈ cs.getLast?, isBlank c = false

variable {cs before after : List Char}

lemma blank_nil : Blank [] := fun _ hc => (List.not_mem_nil hc).elim

lemma Blank.append (hbefore : Blank before) (hafter : Blank after) : Blank (before ++ after) :=
  fun c hc => (List.mem_append.mp hc).elim (hbefore c) (hafter c)

lemma dropWhile_isBlank_first (cs : List Char) :
    ∀ c ∈ (cs.dropWhile isBlank).head?, isBlank c = false := by
  intro c hc
  have hfirst := List.head?_dropWhile_not isBlank cs
  rw [Option.mem_def] at hc
  rwa [hc] at hfirst

lemma dropWhile_isBlank_eq (hbefore : Blank before) (hcs : ∀ c ∈ cs.head?, isBlank c = false) :
    (before ++ cs).dropWhile isBlank = cs := by
  rw [List.dropWhile_append_of_pos hbefore]
  cases cs with
  | nil => rfl
  | cons c rest => exact List.dropWhile_cons_of_neg (by simp [hcs c rfl])

/-- What is trimmed off are blanks. -/
lemma exists_trimChars (cs : List Char) :
    ∃ before after, cs = before ++ trimChars cs ++ after ∧ Blank before ∧ Blank after := by
  refine ⟨cs.takeWhile isBlank, ((trimStart cs).reverse.takeWhile isBlank).reverse, ?_, ?_, ?_⟩
  · have hend : trimChars cs ++ ((trimStart cs).reverse.takeWhile isBlank).reverse =
        trimStart cs := by
      rw [trimChars, trimEnd, ← List.reverse_append, List.takeWhile_append_dropWhile,
        List.reverse_reverse]
    rw [List.append_assoc, hend, trimStart, List.takeWhile_append_dropWhile]
  · exact fun c hc => List.mem_takeWhile_imp hc
  · exact fun c hc => List.mem_takeWhile_imp (List.mem_reverse.mp hc)

/-- No blanks are left around a trimmed text. -/
lemma trimmed_trimChars (cs : List Char) : Trimmed (trimChars cs) where
  first c hc := by
    have hprefix : trimChars cs <+: trimStart cs := by
      have hsuffix := List.dropWhile_suffix isBlank (l := (trimStart cs).reverse)
      rw [← List.reverse_prefix, List.reverse_reverse] at hsuffix
      exact hsuffix
    obtain ⟨after, hafter⟩ := hprefix
    apply dropWhile_isBlank_first cs
    change c ∈ (trimStart cs).head?
    rw [← hafter, List.head?_append, Option.mem_def.mp hc]
    rfl
  last c hc := by
    rw [trimChars, trimEnd, List.getLast?_reverse] at hc
    exact dropWhile_isBlank_first _ c hc

lemma trimChars_of_blank (hcs : Blank cs) : trimChars cs = [] := by
  rw [trimChars, trimStart, List.dropWhile_eq_nil_iff.mpr hcs]
  rfl

/-- A text is trimmed to what stands between surrounding blanks. -/
lemma trimChars_eq (hbefore : Blank before) (hcs : Trimmed cs) (hafter : Blank after) :
    trimChars (before ++ cs ++ after) = cs := by
  cases cs with
  | nil =>
    rw [List.append_nil]
    exact trimChars_of_blank (hbefore.append hafter)
  | cons c rest =>
    have hstart : trimStart (before ++ (c :: rest) ++ after) = c :: rest ++ after := by
      rw [List.append_assoc]
      exact dropWhile_isBlank_eq hbefore hcs.first
    have hblank : Blank after.reverse := fun d hd => hafter d (List.mem_reverse.mp hd)
    rw [trimChars, hstart, trimEnd, List.reverse_append, dropWhile_isBlank_eq hblank,
      List.reverse_reverse]
    rw [List.head?_reverse]
    exact hcs.last

lemma Trimmed.trimChars_eq (h : Trimmed cs) : trimChars cs = cs := by
  have heq := Text.trimChars_eq blank_nil h blank_nil
  rwa [List.append_nil, List.nil_append] at heq

lemma trimChars_eq_nil_iff : trimChars cs = [] ↔ Blank cs := by
  refine ⟨fun hnil => ?_, trimChars_of_blank⟩
  obtain ⟨before, after, heq, hbefore, hafter⟩ := exists_trimChars cs
  rw [hnil, List.append_nil] at heq
  rw [heq]
  exact hbefore.append hafter

end ChatEngine.Text
