import ChatEngine.Proofs.PatternMatches
import ChatEngine.Redaction.Basic

/-!
# Redacted texts

Redaction with the default patterns and the default placeholder never fails and leaves no secret. The
patterns are applied one after the other, and none of them can match an end of the placeholder or
stand inside it. So applying one of them neither leaves a match of its own nor lets an earlier one
match again.
-/

namespace ChatEngine.Redaction
open Text

/-- The characters of the default placeholder. -/
def mask : List Char := '[' :: "REDACTED".toList ++ [']']

/-- A pattern that can be masked: it has no empty match, and no match reaches into the mask. -/
structure SecretPattern.Maskable (p : SecretPattern) : Prop where
  nonempty : p.pattern.rest? [] = none
  shuns : p.pattern.Shuns mask

lemma maskable_of_mem_defaultPatterns {p : SecretPattern} (h : p ∈ defaultPatterns) :
    p.Maskable := by
  have hall : ∀ p ∈ defaultPatterns, p.pattern.rest? [] = none ∧ p.pattern.avoids '[' = true ∧
      p.pattern.avoids ']' = true ∧ p.pattern.occurs "REDACTED".toList = false := by
    decide +kernel
  obtain ⟨hempty, hfirst, hlast, hinner⟩ := hall p h
  exact ⟨hempty, Pattern.shuns_of_avoids hfirst hlast hinner⟩

/-- The text with the matches of the patterns masked, pattern by pattern. -/
def maskAll (ps : List SecretPattern) (cs : List Char) : List Char :=
  ps.foldl (fun cs p => p.pattern.replace (fun _ => mask) cs) cs

/-- Masking the matches of some patterns makes no other one occur. -/
lemma occurs_maskAll {p : SecretPattern} (hp : p.Maskable) {ps : List SecretPattern}
    (hps : ∀ q ∈ ps, q.Maskable) {cs : List Char} (h : p.pattern.occurs cs = false) :
    p.pattern.occurs (maskAll ps cs) = false := by
  induction ps generalizing cs with
  | nil => exact h
  | cons q rest ih =>
    obtain ⟨hq, hrest⟩ := List.forall_mem_cons.mp hps
    exact ih hrest (Pattern.occurs_replace hp.shuns hq.nonempty h)

/-- Masking the matches of some patterns leaves none of them. -/
lemma occurs_maskAll_self {ps : List SecretPattern} (hps : ∀ q ∈ ps, q.Maskable)
    (cs : List Char) : ∀ p ∈ ps, p.pattern.occurs (maskAll ps cs) = false := by
  induction ps generalizing cs with
  | nil =>
    intro p hp
    cases hp
  | cons q rest ih =>
    obtain ⟨hq, hrest⟩ := List.forall_mem_cons.mp hps
    intro p hp
    rcases List.mem_cons.mp hp with rfl | hp
    · -- The later patterns cannot bring back what the first one has masked.
      have hfirst := Pattern.occurs_replace_self hq.shuns hq.nonempty cs
      exact occurs_maskAll hq hrest hfirst
    · exact ih hrest _ p hp

lemma maskAll_of_not_occurs {ps : List SecretPattern} {cs : List Char}
    (h : ∀ p ∈ ps, p.pattern.occurs cs = false) : maskAll ps cs = cs := by
  induction ps with
  | nil => rfl
  | cons q rest ih =>
    obtain ⟨hq, hrest⟩ := List.forall_mem_cons.mp h
    rw [maskAll, List.foldl_cons, Pattern.replace_of_not_occurs hq]
    exact ih hrest

namespace Redactor

/-- The default placeholder is a template that makes the mask of everything. -/
lemma template_default :
    ({} : Redactor).template = .ok (mask.map fun c => .literal [c]) := by
  decide +kernel

lemma fillTemplate_literals (cs matched : List Char) :
    fillTemplate (cs.map fun c => .literal [c]) matched = cs := by
  unfold fillTemplate
  rw [List.flatMap_map]
  exact List.flatMap_singleton' cs

/-- A text has a secret exactly if a default pattern occurs in it. -/
lemma hasSecrets_eq_false_iff {text : String} :
    ({} : Redactor).hasSecrets text = false ↔
      ∀ p ∈ defaultPatterns, p.pattern.occurs text.toList = false := by
  unfold hasSecrets
  by_cases hempty : text = ""
  · subst hempty
    have hnone : ∀ p ∈ defaultPatterns, p.pattern.occurs "".toList = false := by decide +kernel
    exact ⟨fun _ => hnone, fun _ => rfl⟩
  · have hne : text.isEmpty = false := by simpa using hempty
    rw [hne, Bool.not_false, Bool.true_and, List.any_eq_false]
    simp

/-- Redacting a text masks the matches of the default patterns. -/
lemma redact_default (text : String) :
    ({} : Redactor).redact text = .ok (String.ofList (maskAll defaultPatterns text.toList)) := by
  unfold redact
  by_cases hempty : text = ""
  · subst hempty
    decide +kernel
  · have hne : text.isEmpty = false := by simpa using hempty
    have hmake : fillTemplate (mask.map fun c => .literal [c]) = fun _ => mask :=
      funext fun matched => fillTemplate_literals mask matched
    rw [hne, template_default]
    simp only [Bool.false_eq_true, if_false]
    change Except.ok _ = _
    rw [hmake]
    rfl

/-- What redaction makes of a text has no secret. -/
lemma hasSecrets_redacted {text redacted : String}
    (h : ({} : Redactor).redact text = .ok redacted) :
    ({} : Redactor).hasSecrets redacted = false := by
  rw [redact_default] at h
  rw [← Except.ok.inj h, hasSecrets_eq_false_iff, String.toList_ofList]
  exact occurs_maskAll_self (fun p => maskable_of_mem_defaultPatterns) _

/-- A text without secrets stays as it is. -/
lemma redact_of_not_hasSecrets {text : String} (h : ({} : Redactor).hasSecrets text = false) :
    ({} : Redactor).redact text = .ok text := by
  rw [redact_default, maskAll_of_not_occurs (hasSecrets_eq_false_iff.mp h), String.ofList_toList]

/-- With the default patterns and placeholder every text can be redacted, no secret is left then,
exactly the texts without secrets stay as they are, and redacting again changes nothing. -/
theorem redaction_leaves_no_secret (text : String) :
    ∃ redacted, ({} : Redactor).redact text = .ok redacted ∧
      ({} : Redactor).hasSecrets redacted = false ∧
      (redacted = text ↔ ({} : Redactor).hasSecrets text = false) ∧
      ({} : Redactor).redact redacted = .ok redacted := by
  have hredacted := redact_default text
  have hclear := hasSecrets_redacted hredacted
  refine ⟨_, hredacted, hclear, ?_, redact_of_not_hasSecrets hclear⟩
  constructor
  · intro hsame
    rwa [hsame] at hclear
  · intro hnone
    exact Except.ok.inj (hredacted.symm.trans (redact_of_not_hasSecrets hnone))

end Redactor

end ChatEngine.Redaction
