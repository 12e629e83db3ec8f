import ChatEngine.Proofs.RedactedTexts
import ChatEngine.Redaction.Sanitize

/-!
# Sanitized values

Sanitizing a value clears the texts in it, however deep they are, and changes nothing else. Values
of one shape with related texts at the same places are `Alike`; a value is alike to its sanitized
form with each text beside its redaction, and sanitizing leaves a value as it is that is alike to
some value with texts without secrets.
-/

namespace ChatEngine

namespace Value

mutual

/-- Whether two values have one shape, that is the same containers with the same keys in the same
order and the same scalars, and at the same places texts that are related. -/
inductive Alike (r : String → String → Prop) : Value → Value → Prop
  | null : Alike r .null .null
  | bool (b : Bool) : Alike r (.bool b) (.bool b)
  | int (n : Int) : Alike r (.int n) (.int n)
  | float (x : Float) : Alike r (.float x) (.float x)
  | moment (m : Calendar.Moment) : Alike r (.moment m) (.moment m)
  | str {s t : String} (related : r s t) : Alike r (.str s) (.str t)
  | list {vs ws : List Value} (items : AlikeItems r vs ws) : Alike r (.list vs) (.list ws)
  | tuple {vs ws : List Value} (items : AlikeItems r vs ws) : Alike r (.tuple vs) (.tuple ws)
  | map {es fs : List (String × Value)} (entries : AlikeEntries r es fs) :
      Alike r (.map es) (.map fs)
  | table {es fs : List (Value × Value)} (entries : AlikeEntries r es fs) :
      Alike r (.table es) (.table fs)

/-- Whether the items of two sequences are alike one by one. -/
inductive AlikeItems (r : String → String → Prop) : List Value → List Value → Prop
  | nil : AlikeItems r [] []
  | cons {v w : Value} {vs ws : List Value} (first : Alike r v w) (rest : AlikeItems r vs ws) :
      AlikeItems r (v :: vs) (w :: ws)

/-- Whether two maps have the same keys in the same order, and alike values under them. -/
inductive AlikeEntries (r : String → String → Prop) :
    {κ : Type} → List (κ × Value) → List (κ × Value) → Prop
  | nil {κ : Type} : AlikeEntries r ([] : List (κ × Value)) []
  | cons {κ : Type} {key : κ} {v w : Value} {es fs : List (κ × Value)} (first : Alike r v w)
      (rest : AlikeEntries r es fs) : AlikeEntries r ((key, v) :: es) ((key, w) :: fs)

end

end Value

namespace Redaction
open Value

variable {r : String → String → Prop}

/-! ### Shape -/

mutual

/-- A value is alike to its sanitized form in whatever way texts are related to their redactions. -/
lemma alike_sanitize (related : ∀ s, r s (redactText s)) : ∀ v : Value, v.Alike r (sanitize v)
  | .null => .null
  | .bool b => .bool b
  | .int n => .int n
  | .float x => .float x
  | .moment m => .moment m
  | .str s => .str (related s)
  | .list vs => .list (alike_sanitizeItems related vs)
  | .tuple vs => .tuple (alike_sanitizeItems related vs)
  | .map es => .map (alike_sanitizeEntries related es)
  | .table es => .table (alike_sanitizePairs related es)

lemma alike_sanitizeItems (related : ∀ s, r s (redactText s)) :
    ∀ vs : List Value, AlikeItems r vs (sanitizeItems vs)
  | [] => .nil
  | v :: vs => .cons (alike_sanitize related v) (alike_sanitizeItems related vs)

lemma alike_sanitizeEntries (related : ∀ s, r s (redactText s)) :
    ∀ es : List (String × Value), AlikeEntries r es (sanitizeEntries es)
  | [] => .nil
  | (_, v) :: es => .cons (alike_sanitize related v) (alike_sanitizeEntries related es)

lemma alike_sanitizePairs (related : ∀ s, r s (redactText s)) :
    ∀ es : List (Value × Value), AlikeEntries r es (sanitizePairs es)
  | [] => .nil
  | (_, v) :: es => .cons (alike_sanitize related v) (alike_sanitizePairs related es)

end

/-! ### Texts -/

/-- Whether the second text may stand for the first in a log: it is its redaction, has no secret,
and is the text itself if that had none. -/
structure Cleared (s t : String) : Prop where
  redacted : ({} : Redactor).redact s = .ok t
  clear : ({} : Redactor).hasSecrets t = false
  same : ({} : Redactor).hasSecrets s = false → t = s

lemma cleared_redactText (s : String) : Cleared s (redactText s) := by
  have hredacted := Redactor.redact_default s
  have htext : redactText s = String.ofList (maskAll defaultPatterns s.toList) := by
    unfold redactText
    rw [hredacted]
  rw [htext]
  refine ⟨hredacted, Redactor.hasSecrets_redacted hredacted, fun hnone => ?_⟩
  have hsame := Redactor.redact_of_not_hasSecrets hnone
  rw [hredacted] at hsame
  exact Except.ok.inj hsame

mutual

/-- A value without secrets stays as it is. -/
lemma sanitize_of_clear : ∀ {v w : Value},
    v.Alike (fun _ t => ({} : Redactor).hasSecrets t = false) w → sanitize w = w
  | _, _, .null => rfl
  | _, _, .bool _ => rfl
  | _, _, .int _ => rfl
  | _, _, .float _ => rfl
  | _, _, .moment _ => rfl
  | _, _, .str clear => congrArg Value.str ((cleared_redactText _).same clear)
  | _, _, .list items => congrArg Value.list (sanitizeItems_of_clear items)
  | _, _, .tuple items => congrArg Value.tuple (sanitizeItems_of_clear items)
  | _, _, .map entries => congrArg Value.map (sanitizeEntries_of_clear entries)
  | _, _, .table entries => congrArg Value.table (sanitizePairs_of_clear entries)

lemma sanitizeItems_of_clear : ∀ {vs ws : List Value},
    AlikeItems (fun _ t => ({} : Redactor).hasSecrets t = false) vs ws → sanitizeItems ws = ws
  | _, _, .nil => rfl
  | _, _, .cons first rest =>
    congrArg₂ List.cons (sanitize_of_clear first) (sanitizeItems_of_clear rest)

lemma sanitizeEntries_of_clear : ∀ {es fs : List (String × Value)},
    AlikeEntries (fun _ t => ({} : Redactor).hasSecrets t = false) es fs → sanitizeEntries fs = fs
  | _, _, .nil => rfl
  | _, _, .cons first rest =>
    congrArg₂ (fun v es => (_, v) :: es) (sanitize_of_clear first) (sanitizeEntries_of_clear rest)

lemma sanitizePairs_of_clear : ∀ {es fs : List (Value × Value)},
    AlikeEntries (fun _ t => ({} : Redactor).hasSecrets t = false) es fs → sanitizePairs fs = fs
  | _, _, .nil => rfl
  | _, _, .cons first rest =>
    congrArg₂ (fun v es => (_, v) :: es) (sanitize_of_clear first) (sanitizePairs_of_clear rest)

end

/-- Sanitizing clears every text in a value and keeps its shape. There is nothing left to sanitize
then. -/
theorem sanitizing_clears_every_text (v : Value) :
    v.Alike Cleared (sanitize v) ∧ sanitize (sanitize v) = sanitize v :=
  ⟨alike_sanitize cleared_redactText v,
    sanitize_of_clear (alike_sanitize (fun s => (cleared_redactText s).clear) v)⟩

end Redaction

end ChatEngine
