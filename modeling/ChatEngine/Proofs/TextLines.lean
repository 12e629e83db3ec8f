import ChatEngine.Text.Trim
import Mathlib.Data.List.Basic

/-!
# Lines of texts

Texts that stay on one line (`OneLine`), and splitting at a separator: it undoes joining, and of
texts on one line each it gives these texts back.
-/

namespace ChatEngine.Text

/-- Whether a text stays on one line. -/
def OneLine (s : String) : Prop := '\n' ∉ s.toList

instance (s : String) : Decidable (OneLine s) := inferInstanceAs (Decidable ('\n' ∉ s.toList))

lemma OneLine.append {s t : String} (hs : OneLine s) (ht : OneLine t) : OneLine (s ++ t) := by
  unfold OneLine
  rw [String.toList_append]
  exact List.not_mem_append hs ht

variable {separator : Char}

lemma splitChars_ne_nil (separator : Char) (cs : List Char) : splitChars separator cs ≠ [] := by
  cases cs with
  | nil => exact List.cons_ne_nil _ _
  | cons c cs =>
    unfold splitChars
    split
    · exact List.cons_ne_nil _ _
    · split
      · exact List.cons_ne_nil _ _
      · exact List.cons_ne_nil _ _

lemma splitChars_of_not_mem {cs : List Char} (h : separator ∉ cs) :
    splitChars separator cs = [cs] := by
  induction cs with
  | nil => rfl
  | cons c cs ih =>
    have hc : c ≠ separator := fun heq => h (heq ▸ List.mem_cons_self)
    have hcs : separator ∉ cs := fun hmem => h (List.mem_cons_of_mem _ hmem)
    rw [splitChars, if_neg hc, ih hcs]

/-- The pieces of a text with a separator in it are those before it and those after it. -/
lemma splitChars_append (cs rest : List Char) :
    splitChars separator (cs ++ separator :: rest) =
      splitChars separator cs ++ splitChars separator rest := by
  induction cs with
  | nil => simp [splitChars]
  | cons c cs ih =>
    rw [List.cons_append, splitChars, splitChars, ih]
    split
    · rfl
    · cases hpieces : splitChars separator cs with
      | nil => exact absurd hpieces (splitChars_ne_nil separator cs)
      | cons piece pieces => rfl

lemma OneLine.split_eq {s : String} (h : OneLine s) : split '\n' s = [s] := by
  rw [split, splitChars_of_not_mem h, List.map_singleton, String.ofList_toList]

lemma split_append (s t : String) : split '\n' (s ++ "\n" ++ t) = split '\n' s ++ split '\n' t := by
  have hparts : (s ++ "\n" ++ t).toList = s.toList ++ '\n' :: t.toList := by
    rw [String.toList_append, String.toList_append, List.append_assoc]
    rfl
  rw [split, hparts, splitChars_append, List.map_append]
  rfl

/-- The lines of joined texts are those of all of them. -/
lemma split_join {texts : List String} (nonempty : texts ≠ []) :
    split '\n' (join "\n" texts) = texts.flatMap (split '\n') := by
  induction texts with
  | nil => exact absurd rfl nonempty
  | cons text texts ih =>
    cases texts with
    | nil => rw [join, String.intercalate_singleton, List.flatMap_singleton]
    | cons next texts =>
      rw [join, String.intercalate_cons_cons, split_append, List.flatMap_cons]
      exact congrArg _ (ih (List.cons_ne_nil _ _))

lemma flatMap_split {texts : List String} (h : ∀ text ∈ texts, OneLine text) :
    texts.flatMap (split '\n') = texts := by
  rw [List.flatMap_congr fun text htext => (h text htext).split_eq]
  exact List.flatMap_singleton' texts

lemma join_cons (text : String) (texts : List String) :
    join "" (text :: texts) = text ++ join "" texts := by
  cases texts with
  | nil =>
    rw [join, join, String.intercalate_singleton, String.intercalate_nil, String.append_empty]
  | cons next texts =>
    rw [join, String.intercalate_cons_cons, String.append_empty]
    rfl

/-- Texts that each end their line are split into these texts, and nothing follows the last. -/
lemma split_ended {texts : List String} (h : ∀ text ∈ texts, OneLine text) :
    split '\n' (join "" (texts.map (· ++ "\n"))) = texts ++ [""] := by
  induction texts with
  | nil => rfl
  | cons text texts ih =>
    obtain ⟨htext, htexts⟩ := List.forall_mem_cons.mp h
    rw [List.map_cons, join_cons, split_append, htext.split_eq, ih htexts]
    rfl

end ChatEngine.Text
