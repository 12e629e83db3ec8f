import ChatEngine.Redaction.Basic
import ChatEngine.Value

/-!
# Sanitizing log values

Sanitizing log values: every text in a value is redacted, and all else stays as it is.
-/
namespace ChatEngine.Redaction

/-- Redacts a text with the default patterns, whose placeholder is no template that can fail. -/
def redactText (text : String) : String :=
  match ({} : Redactor).redact text with
  | .ok redacted => redacted
  | .error _ => ({} : Redactor).placeholder

mutual

/-- The value with every text redacted; the keys of maps and tables are kept. -/
def sanitize : Value → Value
  | .str s => .str (redactText s)
  | .list vs => .list (sanitizeItems vs)
  | .tuple vs => .tuple (sanitizeItems vs)
  | .map es => .map (sanitizeEntries es)
  | .table es => .table (sanitizePairs es)
  | v => v

def sanitizeItems : List Value → List Value
  | [] => []
  | v :: vs => sanitize v :: sanitizeItems vs

def sanitizeEntries : List (String × Value) → List (String × Value)
  | [] => []
  | (k, v) :: es => (k, sanitize v) :: sanitizeEntries es

def sanitizePairs : List (Value × Value) → List (Value × Value)
  | [] => []
  | (k, v) :: es => (k, sanitize v) :: sanitizePairs es

end

end ChatEngine.Redaction
