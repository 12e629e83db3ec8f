import ChatEngine.Fault
import ChatEngine.Redaction.Template
import ChatEngine.Text.Pattern

/-!
# Redaction of secrets

Redaction: secrets in texts are found by patterns and replaced by a placeholder. Redaction fails
rather than letting a text through that it could not treat.
-/
namespace ChatEngine.Redaction

open Text

/-- A pattern for secrets, with its written form. Equal forms are one pattern. -/
structure SecretPattern where
  source : String
  pattern : Pattern

def isTokenChar (c : Char) : Bool := isWord c || c == '-'

def isEncodedChar (c : Char) : Bool := c.isAlphanum || c == '_' || c == '-'

/-- A secret after its name and a colon or an equals sign. -/
def genericSecret : SecretPattern where
  source :=
    "(?i)(api[_-]?key|secret|token|password|credential)\\s*[=:]\\s*[\\\"']?[\\w-]\x7b16,\x7d"
  pattern := .inOrder
    [.anyOf [.inOrder [.letters "api".toList, .optional (.one fun c => c == '_' || c == '-'),
        .letters "key".toList],
      .letters "secret".toList, .letters "token".toList, .letters "password".toList,
      .letters "credential".toList],
     .many isBlank 0, .one (fun c => c == '=' || c == ':'), .many isBlank 0,
     .optional (.one fun c => c == '"' || c == '\''), .many isTokenChar 16]

def chatToken : SecretPattern where
  source := "xox[abeoprs]-[\\w-]+"
  pattern := .inOrder
    [.literal "xox".toList, .one ("abeoprs".toList.contains ·), .literal ['-'],
     .many isTokenChar 1]

def applicationToken : SecretPattern where
  source := "xapp-[\\w-]+"
  pattern := .seq (.literal "xapp-".toList) (.many isTokenChar 1)

def webhook : SecretPattern where
  source := "https://hooks\\.slack\\.com/services/[\\w/]+"
  pattern := .seq (.literal "https://hooks.slack.com/services/".toList)
    (.many (fun c => isWord c || c == '/') 1)

def privateKey : SecretPattern where
  source := "-----BEGIN (?:RSA |EC |DSA |OPENSSH )?PRIVATE KEY-----"
  pattern := .inOrder
    [.literal "-----BEGIN ".toList,
     .optional (.anyOf [.literal "RSA ".toList, .literal "EC ".toList, .literal "DSA ".toList,
       .literal "OPENSSH ".toList]),
     .literal "PRIVATE KEY-----".toList]

def signedToken : SecretPattern where
  source := "eyJ[a-zA-Z0-9_-]*\\.eyJ[a-zA-Z0-9_-]*\\.[a-zA-Z0-9_-]*"
  pattern := .inOrder
    [.literal "eyJ".toList, .many isEncodedChar 0, .literal ".eyJ".toList, .many isEncodedChar 0,
     .literal ['.'], .many isEncodedChar 0]

/-- The patterns that every redactor knows, in the order of their application. -/
def defaultPatterns : List SecretPattern :=
  [genericSecret, chatToken, applicationToken, webhook, privateKey, signedToken]

/-- Why a text cannot be used as a pattern. -/
inductive PatternError where
  | nothingToRepeat (position : Nat)
  | unclosedGroup (position : Nat)
  | unopenedGroup (position : Nat)
  | unclosedClass (position : Nat)
  deriving DecidableEq, Repr

def PatternError.message : PatternError → String
  | .nothingToRepeat p => s!"nothing to repeat at position {p}"
  | .unclosedGroup p => s!"missing ), unterminated subpattern at position {p}"
  | .unopenedGroup p => s!"unbalanced parenthesis at position {p}"
  | .unclosedClass p => s!"unterminated character set at position {p}"

/-- Checks that every bracket from a position on is closed and every repetition has something to
repeat; `first` says whether nothing came before in the group. -/
def checkSource (position : Nat) (first : Bool) : List Char → Except PatternError Unit
  | [] => .ok ()
  | '\\' :: _ :: cs => checkSource (position + 2) false cs
  | c :: cs =>
    if c = '(' && !cs.contains ')' then .error (.unclosedGroup position)
    else if c = ')' then .error (.unopenedGroup position)
    else if c = '[' && !cs.contains ']' then .error (.unclosedClass position)
    else if (c = '*' || c = '+' || c = '?') && first then .error (.nothingToRepeat position)
    else checkSource (position + 1) false cs

/-- The pattern of a written form: one of the defaults, or the characters themselves. -/
def SecretPattern.ofSource (source : String) : Except PatternError SecretPattern :=
  match defaultPatterns.find? (·.source == source) with
  | some p => .ok p
  | none => do
    checkSource 0 true source.toList
    return ⟨source, .literal source.toList⟩

/-- Why redaction is refused. -/
inductive RedactionError where
  | badPattern (source : String) (cause : PatternError)
  | badPlaceholder (placeholder : String) (cause : TemplateError)
  deriving DecidableEq, Repr

def RedactionError.message : RedactionError → String
  | .badPattern source cause => s!"Failed to compile secret pattern '{source}': {cause.message}"
  | .badPlaceholder placeholder cause => "Redaction failed: " ++ cause.message placeholder

def RedactionError.fault (e : RedactionError) : Fault := ⟨.redaction, e.message⟩

/-- A redactor: its patterns in the order of their application, and what replaces a secret. -/
structure Redactor where
  placeholder : String := "[REDACTED]"
  patterns : List SecretPattern := defaultPatterns

namespace Redactor

def addPattern (r : Redactor) (p : SecretPattern) : Redactor :=
  if r.patterns.any (·.source == p.source) then r else { r with patterns := r.patterns ++ [p] }

def create (placeholder : String) (sources : List String) : Except RedactionError Redactor :=
  sources.foldlM (fun r source =>
    ((SecretPattern.ofSource source).mapError (.badPattern source)).map r.addPattern)
    { placeholder }

/-- What replaces a text matched. The first default pattern has one group and the others none, so
only group zero passes both readings. -/
def template (r : Redactor) : Except RedactionError (List TemplatePart) := do
  let _ ← (readTemplate 1 r.placeholder).mapError (.badPlaceholder r.placeholder)
  (readTemplate 0 r.placeholder).mapError (.badPlaceholder r.placeholder)

def redact (r : Redactor) (text : String) : Except RedactionError String :=
  if text.isEmpty then .ok text
  else do
    let parts ← r.template
    return String.ofList
      (r.patterns.foldl (fun cs p => p.pattern.replace (fillTemplate parts) cs) text.toList)

def hasSecrets (r : Redactor) (text : String) : Bool :=
  !text.isEmpty && r.patterns.any fun p => p.pattern.occurs text.toList

end Redactor

def sensitiveParts : List String := ["token", "key", "secret", "password", "credential"]

/-- A configuration value as it may be shown: of the value of a sensitive name only the ends. -/
def maskValue (key value : String) : String :=
  if sensitiveParts.any (Text.contains (Text.lower key)) then
    if 8 < value.length then Text.take 4 value ++ "..." ++ Text.takeLast 4 value else "***"
  else value

end ChatEngine.Redaction
