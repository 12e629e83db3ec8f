import ChatEngine.Json.Reader
import ChatEngine.Metrics.Registry
import ChatEngine.Proofs.TextLines
import Mathlib.Data.List.TakeWhile

/-!
# The text exposition format

Reading metrics in the text exposition format. Every line is empty, a comment or a sample: a name,
labels in braces, a number and maybe a time. Values of labels stand in double quotes; in them a
backslash, a double quote and a line feed are written with a backslash. What is written so is read
back (`readSample?_written`), and labels that were not written so are not (`plain_of_readSample?`).
-/

namespace ChatEngine.Exposition

/-! ### Reading -/

/-- A number as it is written. -/
inductive Number where
  | nan
  | infinite (negative : Bool)
  | decimal (negative : Bool) (digits : List Char) (exponent : Int)

/-- The double nearest to a number. -/
def Number.toFloat : Number → Float
  | .nan => 0.0 / 0.0
  | .infinite negative => if negative then -(1.0 / 0.0) else 1.0 / 0.0
  | .decimal negative digits exponent => Json.floatOf negative digits exponent

/-- The number of things that a number without sign, point and exponent says. -/
def Number.toNat? : Number → Option Nat
  | .decimal false digits 0 => some (Decimal.digitsValue digits)
  | _ => none

/-- A sample: what a metric shows for labels. -/
structure Sample where
  name : String
  labels : LabelSet
  number : Number

/-- Whether a character may stand between two tokens of a line. -/
def isSpace (c : Char) : Bool := c == ' ' || c == '\t'

/-- Whether a character may stand in the name of a label. -/
def inLabelName (c : Char) : Bool := c.isAlphanum || c == '_'

/-- Whether a character may stand in the name of a metric. -/
def inMetricName (c : Char) : Bool := inLabelName c || c == ':'

/-- Reads a name, which does not begin with a digit. -/
def readName? (inName : Char → Bool) (cs : List Char) : Option (String × List Char) :=
  match cs.takeWhile inName with
  | [] => none
  | c :: name =>
    if c.isDigit then none else some (String.ofList (c :: name), cs.dropWhile inName)

/-- What a character after a backslash stands for. -/
def unescape? : Char → Option Char
  | '\\' => some '\\'
  | '"' => some '"'
  | 'n' => some '\n'
  | _ => none

/-- Reads the rest of a value after its opening quote; `escaped` says that a backslash was read. -/
def readValue? : (escaped : Bool) → List Char → Option (List Char × List Char)
  | _, [] => none
  | true, c :: cs => do
    let c ← unescape? c
    let (value, rest) ← readValue? false cs
    return (c :: value, rest)
  | false, c :: cs =>
    if c = '"' then some ([], cs)
    else if c = '\n' then none
    else if c = '\\' then readValue? true cs
    else do
      let (value, rest) ← readValue? false cs
      return (c :: value, rest)

def readLabel? (cs : List Char) : Option ((String × String) × List Char) := do
  let (name, rest) ← readName? inLabelName cs
  let '=' :: rest := rest.dropWhile isSpace | none
  let '"' :: rest := rest.dropWhile isSpace | none
  let (value, rest) ← readValue? false rest
  return ((name, String.ofList value), rest)

/-- Reads labels up to the closing brace, of at most `fuel` successive ones. -/
def readLabels? : (fuel : Nat) → List Char → Option (LabelSet × List Char)
  | 0, _ => none
  | fuel + 1, cs => match cs.dropWhile isSpace with
    | '\x7d' :: rest => some ([], rest)
    | cs => do
      let (label, rest) ← readLabel? cs
      match rest.dropWhile isSpace with
      | ',' :: rest => do
        let (labels, rest) ← readLabels? fuel rest
        return (label :: labels, rest)
      | '\x7d' :: rest => return ([label], rest)
      | _ => none

/-- Reads an exponent, if there is one. -/
def readExponent? : List Char → Option Int
  | [] => some 0
  | c :: cs =>
    let (negative, digits) := Decimal.splitSign cs
    if c.toLower = 'e' && !digits.isEmpty && digits.all Char.isDigit then
      let size : Int := Decimal.digitsValue digits
      some (if negative then -size else size)
    else none

/-- The digits after a point, if there is one, and what follows them. -/
def splitFraction : List Char → List Char × List Char
  | '.' :: cs => (cs.takeWhile Char.isDigit, cs.dropWhile Char.isDigit)
  | cs => ([], cs)

/-- Reads a decimal number after its sign. -/
def readDecimal? (negative : Bool) (cs : List Char) : Option Number :=
  let whole := cs.takeWhile Char.isDigit
  let (decimals, rest) := splitFraction (cs.dropWhile Char.isDigit)
  if (whole ++ decimals).isEmpty then none
  else (readExponent? rest).map fun exponent =>
    .decimal negative (whole ++ decimals) (exponent - decimals.length)

def readNumber? (cs : List Char) : Option Number :=
  let (negative, unsigned) := Decimal.splitSign cs
  if cs.map Char.toLower = "nan".toList then some .nan
  else if ["inf".toList, "infinity".toList].contains (unsigned.map Char.toLower) then
    some (.infinite negative)
  else readDecimal? negative unsigned

/-- The next token and what follows it. -/
def token (cs : List Char) : List Char × List Char :=
  let cs := cs.dropWhile isSpace
  (cs.takeWhile (!isSpace ·), cs.dropWhile (!isSpace ·))

/-- Whether a token may stand for the time of a sample. -/
def isTime (cs : List Char) : Bool :=
  let digits := (Decimal.splitSign cs).2
  cs.isEmpty || (!digits.isEmpty && digits.all Char.isDigit)

/-- Reads what stands after the labels of a sample: a number and maybe a time. -/
def readFigure? (name : String) (labels : LabelSet) (cs : List Char) : Option Sample :=
  let (number, rest) := token cs
  let (time, rest) := token rest
  if isTime time && (rest.dropWhile isSpace).isEmpty then
    (readNumber? number).map fun number => { name, labels, number }
  else none

def readSample? (cs : List Char) : Option Sample := do
  let (name, rest) ← readName? inMetricName cs
  match rest.dropWhile isSpace with
  | '\x7b' :: rest => do
    let (labels, rest) ← readLabels? (rest.length + 1) rest
    readFigure? name labels rest
  | rest => readFigure? name [] rest

/-- Reads a line. An empty line and a comment say nothing. -/
def readLine? (line : String) : Option (Option Sample) :=
  match line.toList.dropWhile isSpace with
  | [] => some none
  | '#' :: _ => some none
  | cs => (readSample? cs).map some

/-- Reads lines, all of which can be read. -/
def readLines? : List String → Option (List Sample)
  | [] => some []
  | line :: lines => do
    let sample? ← readLine? line
    let samples ← readLines? lines
    return sample?.toList ++ samples

def readSamples? (text : String) : Option (List Sample) := readLines? (Text.split '\n' text)

lemma not_isSpace {p : Char → Bool} (hblank : p ' ' = false) (htab : p '\t' = false) {c : Char}
    (h : p c = true) : ¬ isSpace c = true := by
  unfold isSpace
  rw [Bool.or_eq_true, beq_iff_eq, beq_iff_eq]
  rintro (rfl | rfl)
  · rw [hblank] at h
    cases h
  · rw [htab] at h
    cases h

/-! ### Names and values -/

/-- Whether a text is a name. -/
def isName (inName : Char → Bool) (name : String) : Bool :=
  match name.toList with
  | [] => false
  | c :: cs => !c.isDigit && (c :: cs).all inName

/-- Whether a value is written as it is. -/
def Plain (value : String) : Prop :=
  '\\' ∉ value.toList ∧ '"' ∉ value.toList ∧ '\n' ∉ value.toList

instance (value : String) : Decidable (Plain value) := inferInstanceAs (Decidable (_ ∧ _))

/-- How a character is written in a value. -/
def escape (c : Char) : List Char :=
  if c = '\\' ∨ c = '"' then ['\\', c] else if c = '\n' then ['\\', 'n'] else [c]

lemma name_cases {inName : Char → Bool} {name : String} (h : isName inName name = true) :
    (∃ c cs, name.toList = c :: cs ∧ c.isDigit = false) ∧ ∀ d ∈ name.toList, inName d = true := by
  unfold isName at h
  split at h
  · cases h
  · next c cs heq =>
    rw [Bool.and_eq_true, Bool.not_eq_true', List.all_eq_true, ← heq] at h
    exact ⟨⟨c, cs, heq, h.1⟩, h.2⟩

lemma isName_append {inName : Char → Bool} {name suffix : String} (h : isName inName name = true)
    (hsuffix : suffix.toList.all inName = true) : isName inName (name ++ suffix) = true := by
  obtain ⟨⟨c, cs, heq, hc⟩, hname⟩ := name_cases h
  have hall : (c :: (cs ++ suffix.toList)).all inName = true := by
    rw [← List.cons_append, ← heq, List.all_append, List.all_eq_true.mpr hname, hsuffix]
    rfl
  unfold isName
  rw [String.toList_append, heq, List.cons_append]
  dsimp only
  rw [hc, hall]
  rfl

/-- A name is read up to the first character that is not part of it. -/
lemma readName?_append {inName : Char → Bool} {name : String} (h : isName inName name = true)
    {c : Char} (hc : inName c = false) (rest : List Char) :
    readName? inName (name.toList ++ c :: rest) = some (name, c :: rest) := by
  obtain ⟨⟨first, others, heq, hfirst⟩, hname⟩ := name_cases h
  have hafter : ¬ inName c = true := by rw [hc]; exact Bool.false_ne_true
  have htake : (name.toList ++ c :: rest).takeWhile inName = name.toList := by
    rw [List.takeWhile_append_of_pos hname, List.takeWhile_cons_of_neg hafter, List.append_nil]
  have hdrop : (name.toList ++ c :: rest).dropWhile inName = c :: rest := by
    rw [List.dropWhile_append_of_pos hname, List.dropWhile_cons_of_neg hafter]
  unfold readName?
  rw [htake, hdrop, heq]
  dsimp only
  rw [if_neg (by rw [hfirst]; exact Bool.false_ne_true), ← heq, String.ofList_toList]

/-- A plain value is read up to the closing quote. -/
lemma readValue?_plain {value : List Char} (rest : List Char)
    (h : '\\' ∉ value ∧ '"' ∉ value ∧ '\n' ∉ value) :
    readValue? false (value ++ '"' :: rest) = some (value, rest) := by
  induction value with
  | nil => rfl
  | cons c cs ih =>
    simp only [List.mem_cons, not_or] at h
    obtain ⟨⟨hbackslash, hb⟩, ⟨hquote, hq⟩, ⟨hline, hl⟩⟩ := h
    rw [List.cons_append, readValue?, if_neg (Ne.symm hquote), if_neg (Ne.symm hline),
      if_neg (Ne.symm hbackslash), ih ⟨hb, hq, hl⟩]
    rfl

lemma escape_unescape? {c d : Char} (h : unescape? c = some d) : escape d = ['\\', c] := by
  unfold unescape? at h
  split at h <;> cases h <;> rfl

/-- What is read as a value is the value as it is written. -/
lemma readValue?_eq {escaped : Bool} {cs value rest : List Char}
    (h : readValue? escaped cs = some (value, rest)) :
    (if escaped then ['\\'] else []) ++ cs = value.flatMap escape ++ '"' :: rest := by
  induction cs generalizing escaped value with
  | nil => cases escaped <;> cases h
  | cons c cs ih =>
    cases escaped with
    | true =>
      rw [readValue?, Option.bind_eq_bind, Option.bind_eq_some_iff] at h
      obtain ⟨d, hd, h⟩ := h
      rw [Option.bind_eq_bind, Option.bind_eq_some_iff] at h
      obtain ⟨⟨value', rest'⟩, hvalue, h⟩ := h
      cases h
      rw [List.flatMap_cons, escape_unescape? hd, List.append_assoc, ← ih hvalue]
      rfl
    | false =>
      rw [readValue?] at h
      split at h
      · next hquote =>
        cases h
        rw [hquote]
        rfl
      · next hquote =>
        split at h
        · cases h
        · next hline =>
          split at h
          · next hbackslash =>
            rw [hbackslash]
            exact ih h
          · next hbackslash =>
            rw [Option.bind_eq_bind, Option.bind_eq_some_iff] at h
            obtain ⟨⟨value', rest'⟩, hvalue, h⟩ := h
            cases h
            have hescape : escape c = [c] := by
              rw [escape, if_neg (not_or.mpr ⟨hbackslash, hquote⟩), if_neg hline]
            rw [List.flatMap_cons, hescape, List.append_assoc, ← ih hvalue]
            rfl

/-- A text that is behind by some backslashes does not catch up. -/
lemma ne_of_behind {n : Nat} (hn : 0 < n) (value rest rest' : List Char) :
    List.replicate n '\\' ++ value.flatMap escape ++ '"' :: rest ≠ value ++ '"' :: rest' := by
  induction value generalizing n with
  | nil =>
    obtain ⟨k, rfl⟩ := Nat.exists_eq_succ_of_ne_zero hn.ne'
    intro h
    exact absurd (List.cons.inj h).1 (by decide)
  | cons c value ih =>
    obtain ⟨k, rfl⟩ := Nat.exists_eq_succ_of_ne_zero hn.ne'
    intro h
    rw [List.replicate_succ, List.flatMap_cons, List.cons_append, List.cons_append,
      List.cons_append] at h
    obtain ⟨rfl, htail⟩ := List.cons.inj h
    -- a backslash is written as two, so the text falls behind by one more
    have hbehind : List.replicate k '\\' ++ escape '\\' = List.replicate (k + 2) '\\' :=
      (List.replicate_add k 2 '\\').symm
    rw [← List.append_assoc, hbehind] at htail
    exact ih (Nat.succ_pos _) htail

/-- Only a plain value is written as it is. -/
lemma plain_of_written {value rest rest' : List Char}
    (h : value.flatMap escape ++ '"' :: rest = value ++ '"' :: rest') :
    '\\' ∉ value ∧ '"' ∉ value ∧ '\n' ∉ value := by
  induction value with
  | nil => simp
  | cons c value ih =>
    rw [List.flatMap_cons, List.cons_append] at h
    have hbackslash : c ≠ '\\' := by
      rintro rfl
      exact ne_of_behind Nat.one_pos value rest rest' (List.cons.inj h).2
    have hquote : c ≠ '"' := by
      rintro rfl
      exact absurd (List.cons.inj h).1 (by decide)
    have hline : c ≠ '\n' := by
      rintro rfl
      exact absurd (List.cons.inj h).1 (by decide)
    have hescape : escape c = [c] := by
      rw [escape, if_neg (not_or.mpr ⟨hbackslash, hquote⟩), if_neg hline]
    rw [hescape] at h
    obtain ⟨hb, hq, hl⟩ := ih (List.cons.inj h).2
    simp only [List.mem_cons, not_or]
    exact ⟨⟨hbackslash.symm, hb⟩, ⟨hquote.symm, hq⟩, ⟨hline.symm, hl⟩⟩

/-! ### Labels -/

/-- A label as it is exported. -/
def labelChars (label : String × String) : List Char :=
  label.1.toList ++ '=' :: '"' :: (label.2.toList ++ ['"'])

/-- What is exported after a label: the other labels and the closing brace. -/
def moreLabels : LabelSet → List Char
  | [] => ['\x7d']
  | label :: labels => ',' :: (labelChars label ++ moreLabels labels)

def firstLine (cs : List Char) : List Char := cs.takeWhile (· ≠ '\n')

lemma firstLine_append {cs : List Char} (h : '\n' ∉ cs) (rest : List Char) :
    firstLine (cs ++ rest) = cs ++ firstLine rest :=
  List.takeWhile_append_of_pos fun c hc => by
    simp only [decide_eq_true_eq]
    rintro rfl
    exact h hc

def Named (labels : LabelSet) : Prop := ∀ label ∈ labels, isName inLabelName label.1 = true

instance (labels : LabelSet) : Decidable (Named labels) := inferInstanceAs (Decidable (∀ _ ∈ _, _))

lemma toList_labelText (label : String × String) (labels : LabelSet) :
    (Metrics.labelText (label :: labels)).toList =
      '\x7b' :: (labelChars label ++ moreLabels labels) := by
  have hchars (l : String × String) : (l.1 ++ "=\"" ++ l.2 ++ "\"").toList = labelChars l := by
    simp [labelChars]
  have hjoin : (Text.join "," ((label :: labels).map fun l =>
      l.1 ++ "=\"" ++ l.2 ++ "\"")).toList ++ ['\x7d'] = labelChars label ++ moreLabels labels := by
    induction labels generalizing label with
    | nil => rw [List.map_singleton, Text.join, String.intercalate_singleton, hchars, moreLabels]
    | cons next labels ih =>
      rw [List.map_cons, List.map_cons, Text.join, String.intercalate_cons_cons, moreLabels,
        ← ih next, String.toList_append, String.toList_append, hchars, List.append_assoc,
        List.append_assoc]
      rfl
  change ("\x7b" ++ _ ++ "\x7d" : String).toList = _
  rw [String.toList_append, String.toList_append, List.append_assoc, ← hjoin]
  rfl

/-- The name of a label is read, then its value. -/
lemma readLabel?_name {name : String} (h : isName inLabelName name = true) (cs : List Char) :
    readLabel? (name.toList ++ '=' :: '"' :: cs) =
      (readValue? false cs).map fun read => ((name, String.ofList read.1), read.2) := by
  unfold readLabel?
  rw [readName?_append h (by decide), Option.bind_eq_bind, Option.bind_some, Option.map_eq_bind]
  rfl

lemma labelChars_append (label : String × String) (cs : List Char) :
    labelChars label ++ cs = label.1.toList ++ '=' :: '"' :: (label.2.toList ++ '"' :: cs) := by
  simp [labelChars]

lemma readLabel?_plain {label : String × String} (hname : isName inLabelName label.1 = true)
    (hplain : Plain label.2) (cs : List Char) :
    readLabel? (labelChars label ++ cs) = some (label, cs) := by
  rw [labelChars_append, readLabel?_name hname, readValue?_plain cs hplain, Option.map_some,
    String.ofList_toList]

/-- What stands after a label: a comma and more labels, or the closing brace. -/
def afterLabel? (fuel : Nat) (label : String × String) (cs : List Char) :
    Option (LabelSet × List Char) :=
  match cs.dropWhile isSpace with
  | ',' :: rest => (readLabels? fuel rest).map fun read => (label :: read.1, read.2)
  | '\x7d' :: rest => some ([label], rest)
  | _ => none

/-- Labels begin with one when they begin with its name. -/
lemma readLabels?_name {name : String} (h : isName inLabelName name = true) (fuel : Nat)
    (cs : List Char) :
    readLabels? (fuel + 1) (name.toList ++ cs) =
      (readLabel? (name.toList ++ cs)).bind fun read => afterLabel? fuel read.1 read.2 := by
  obtain ⟨⟨c, others, heq, -⟩, hchars⟩ := name_cases h
  have hc : inLabelName c = true := hchars c (heq ▸ List.mem_cons_self)
  have hbrace : c ≠ '\x7d' := by
    rintro rfl
    exact absurd hc (by decide)
  rw [readLabels?, heq, List.cons_append,
    List.dropWhile_cons_of_neg (not_isSpace (by decide) (by decide) hc)]
  split
  · next heq =>
    exact absurd (List.cons.inj heq).1 hbrace
  · rw [Option.bind_eq_bind]
    congr 1
    funext read
    unfold afterLabel?
    dsimp only
    split
    · rw [Option.map_eq_bind]
      rfl
    · rfl
    · rfl

lemma readLabels?_first {label : String × String} (hname : isName inLabelName label.1 = true)
    (hplain : Plain label.2) (fuel : Nat) (cs : List Char) :
    readLabels? (fuel + 1) (labelChars label ++ cs) = afterLabel? fuel label cs := by
  rw [labelChars_append, readLabels?_name hname, ← labelChars_append,
    readLabel?_plain hname hplain, Option.bind_some]

lemma readLabels?_plain {label : String × String} {labels : LabelSet}
    (hnamed : Named (label :: labels)) (hplain : ∀ l ∈ label :: labels, Plain l.2)
    {fuel : Nat} (hfuel : labels.length ≤ fuel) (rest : List Char) :
    readLabels? (fuel + 1) (labelChars label ++ (moreLabels labels ++ rest)) =
      some (label :: labels, rest) := by
  induction labels generalizing label fuel with
  | nil =>
    rw [readLabels?_first (hnamed label List.mem_cons_self) (hplain label List.mem_cons_self)]
    rfl
  | cons next labels ih =>
    obtain ⟨hname, hnames⟩ := List.forall_mem_cons.mp hnamed
    obtain ⟨hvalue, hvalues⟩ := List.forall_mem_cons.mp hplain
    obtain ⟨fuel, rfl⟩ := Nat.exists_eq_succ_of_ne_zero (Nat.ne_zero_of_lt hfuel)
    rw [readLabels?_first hname hvalue, moreLabels, List.cons_append, List.append_assoc]
    change (readLabels? (fuel + 1) (labelChars next ++ (moreLabels labels ++ rest))).map _ = _
    rw [ih hnames hvalues (Nat.le_of_succ_le_succ hfuel)]
    rfl

lemma afterLabel?_eq {fuel : Nat} {label : String × String} {cs rest : List Char}
    {labels : LabelSet} (h : afterLabel? fuel label cs = some (labels, rest)) :
    labels.head? = some label := by
  unfold afterLabel? at h
  split at h
  · obtain ⟨read, -, hread⟩ := Option.map_eq_some_iff.mp h
    cases hread
    rfl
  · cases h
    rfl
  · cases h

lemma not_mem_name {inName : Char → Bool} (hline : inName '\n' = false) {name : String}
    (h : isName inName name = true) : '\n' ∉ name.toList := fun hmem => by
  rw [(name_cases h).2 _ hmem] at hline
  cases hline

lemma firstLine_name {label : String × String} (hname : isName inLabelName label.1 = true)
    (cs : List Char) :
    firstLine (labelChars label ++ cs) =
      label.1.toList ++ '=' :: '"' :: firstLine (label.2.toList ++ '"' :: cs) := by
  rw [labelChars_append, firstLine_append (not_mem_name (by decide) hname)]
  rfl

lemma firstLine_label {label : String × String} (hname : isName inLabelName label.1 = true)
    (hplain : Plain label.2) (cs : List Char) :
    firstLine (labelChars label ++ cs) = labelChars label ++ firstLine cs := by
  rw [firstLine_name hname, firstLine_append hplain.2.2, labelChars_append]
  rfl

/-- If what is read begins with the label that is written, the label is plain. -/
lemma plain_of_first {label : String × String} (hname : isName inLabelName label.1 = true)
    {fuel : Nat} {cs rest : List Char} {labels : LabelSet}
    (h : readLabels? fuel (firstLine (labelChars label ++ cs)) = some (label :: labels, rest)) :
    Plain label.2 := by
  cases fuel with
  | zero => cases h
  | succ fuel =>
    rw [firstLine_name hname, readLabels?_name hname, readLabel?_name hname] at h
    obtain ⟨read, hread, h⟩ := Option.bind_eq_some_iff.mp h
    obtain ⟨⟨value, rest'⟩, hvalue, rfl⟩ := Option.map_eq_some_iff.mp hread
    have hhead : label = (label.1, String.ofList value) := Option.some.inj (afterLabel?_eq h)
    have hsame : value = label.2.toList := by
      rw [hhead, String.toList_ofList]
    have hwritten := readValue?_eq hvalue
    -- what follows the first line does not matter for what stands before the quote
    have hline := List.takeWhile_append_dropWhile (p := (· ≠ '\n'))
      (l := label.2.toList ++ '"' :: cs)
    simp only [Bool.false_eq_true, if_false, List.nil_append, firstLine, hsame] at hwritten
    rw [hwritten, List.append_assoc] at hline
    exact plain_of_written hline

/-- What is read from the first line of labels is not these labels unless they are plain. -/
lemma plain_of_readLabels? {label : String × String} {labels : LabelSet}
    (hnamed : Named (label :: labels)) {fuel : Nat} {rest rest' : List Char}
    (h : readLabels? fuel (firstLine (labelChars label ++ (moreLabels labels ++ rest))) =
      some (label :: labels, rest')) : ∀ l ∈ label :: labels, Plain l.2 := by
  induction labels generalizing label fuel with
  | nil =>
    rw [List.forall_mem_singleton]
    exact plain_of_first (hnamed label List.mem_cons_self) h
  | cons next labels ih =>
    obtain ⟨hname, hnames⟩ := List.forall_mem_cons.mp hnamed
    have hplain := plain_of_first hname h
    refine List.forall_mem_cons.mpr ⟨hplain, ?_⟩
    cases fuel with
    | zero => cases h
    | succ fuel =>
      rw [firstLine_label hname hplain, readLabels?_first hname hplain, moreLabels,
        List.cons_append, List.append_assoc] at h
      obtain ⟨read, hread, heq⟩ := Option.map_eq_some_iff.mp h
      obtain ⟨labels', rest''⟩ := read
      cases heq
      exact ih hnames hread

/-! ### Numbers -/

def inNumber (c : Char) : Bool := c.isAlphanum || c == '.' || c == '+' || c == '-'

lemma inNumber_of_isAlphanum {c : Char} (h : c.isAlphanum = true) : inNumber c = true := by
  rw [inNumber, h]
  rfl

lemma inNumber_of_isDigit {c : Char} (h : c.isDigit = true) : inNumber c = true := by
  rw [inNumber, Char.isAlphanum, h, Bool.or_true]
  rfl

lemma isAlphanum_of_toLower {c : Char} (h : c.toLower.isAlphanum = true) : c.isAlphanum = true := by
  unfold Char.toLower at h
  split at h
  · next hupper =>
    have hletter : c.isUpper = true := decide_eq_true hupper
    change (c.isUpper || c.isLower || c.isDigit) = true
    rw [hletter]
    rfl
  · exact h

lemma inNumber_of_splitSign {cs : List Char}
    (h : ∀ c ∈ (Decimal.splitSign cs).2, inNumber c = true) : ∀ c ∈ cs, inNumber c = true := by
  unfold Decimal.splitSign at h
  split at h
  · exact List.forall_mem_cons.mpr ⟨rfl, h⟩
  · exact List.forall_mem_cons.mpr ⟨rfl, h⟩
  · exact h

lemma inNumber_of_readExponent? {cs : List Char} {e : Int} (h : readExponent? cs = some e) :
    ∀ c ∈ cs, inNumber c = true := by
  cases cs with
  | nil => exact fun c hc => absurd hc List.not_mem_nil
  | cons c cs =>
    unfold readExponent? at h
    dsimp only at h
    split at h
    · next hform =>
      simp only [Bool.and_eq_true, decide_eq_true_eq, List.all_eq_true] at hform
      refine List.forall_mem_cons.mpr ⟨?_, inNumber_of_splitSign fun d hd => ?_⟩
      · exact inNumber_of_isAlphanum (isAlphanum_of_toLower (by rw [hform.1.1]; rfl))
      · exact inNumber_of_isDigit (hform.2 d hd)
    · cases h

lemma inNumber_of_splitFraction {cs : List Char}
    (h : ∀ c ∈ (splitFraction cs).2, inNumber c = true) : ∀ c ∈ cs, inNumber c = true := by
  unfold splitFraction at h
  split at h
  · next rest =>
    refine List.forall_mem_cons.mpr ⟨rfl, fun c hc => ?_⟩
    rw [← List.takeWhile_append_dropWhile (p := Char.isDigit) (l := rest), List.mem_append] at hc
    rcases hc with hdigit | hafter
    · exact inNumber_of_isDigit (List.mem_takeWhile_imp hdigit)
    · exact h c hafter
  · exact h

lemma inNumber_of_readDecimal? {negative : Bool} {cs : List Char} {n : Number}
    (h : readDecimal? negative cs = some n) : ∀ c ∈ cs, inNumber c = true := by
  unfold readDecimal? at h
  dsimp only at h
  split at h
  · cases h
  · obtain ⟨e, hexponent, -⟩ := Option.map_eq_some_iff.mp h
    have hafter := inNumber_of_splitFraction (inNumber_of_readExponent? hexponent)
    intro c hc
    rw [← List.takeWhile_append_dropWhile (p := Char.isDigit) (l := cs), List.mem_append] at hc
    rcases hc with hdigit | hrest
    · exact inNumber_of_isDigit (List.mem_takeWhile_imp hdigit)
    · exact hafter c hrest

lemma inNumber_of_letters {cs letters : List Char} (h : cs.map Char.toLower = letters)
    (hletters : letters.all Char.isAlphanum = true) : ∀ c ∈ cs, inNumber c = true := fun _ hc =>
  inNumber_of_isAlphanum (isAlphanum_of_toLower
    (List.all_eq_true.mp hletters _ (h ▸ List.mem_map_of_mem hc)))

/-- The characters of a number are no blanks. -/
lemma inNumber_of_readNumber? {cs : List Char} {n : Number} (h : readNumber? cs = some n) :
    ∀ c ∈ cs, inNumber c = true := by
  unfold readNumber? at h
  dsimp only at h
  split at h
  · next hnan => exact inNumber_of_letters hnan (by decide)
  · refine inNumber_of_splitSign ?_
    split at h
    · next hinfinite =>
      rcases List.mem_pair.mp (List.contains_iff_mem.mp hinfinite) with hinf | hinf
      · exact inNumber_of_letters hinf (by decide)
      · exact inNumber_of_letters hinf (by decide)
    · exact inNumber_of_readDecimal? h

/-! ### Samples -/

def sampleChars (name : String) (labels : LabelSet) (number : List Char) : List Char :=
  name.toList ++ ((Metrics.labelText labels).toList ++ ' ' :: number)

section Samples

variable {name : String} {labels : LabelSet} {number : List Char} {n : Number}

lemma not_isSpace_of_readNumber? (hnumber : readNumber? number = some n) :
    ∀ c ∈ number, isSpace c = false := fun c hc =>
  Bool.eq_false_iff.mpr
    (not_isSpace (by decide) (by decide) (inNumber_of_readNumber? hnumber c hc))

lemma dropWhile_number (hnumber : readNumber? number = some n) :
    (' ' :: number).dropWhile isSpace = number := by
  rw [List.dropWhile_cons_of_pos rfl, List.dropWhile_eq_self_iff]
  intro hpos
  rw [not_isSpace_of_readNumber? hnumber _ (List.getElem_mem hpos)]
  exact Bool.false_ne_true

lemma readFigure?_number (hnumber : readNumber? number = some n) (labels : LabelSet)
    {cs : List Char} (hcs : cs.dropWhile isSpace = number) :
    readFigure? name labels cs = some { name, labels, number := n } := by
  have hspace : ∀ c ∈ number, (!isSpace c) = true := fun c hc => by
    rw [not_isSpace_of_readNumber? hnumber c hc]
    rfl
  have htoken : token cs = (number, []) := by
    unfold token
    dsimp only
    rw [hcs, List.takeWhile_eq_self_iff.mpr hspace, List.dropWhile_eq_nil_iff.mpr hspace]
  unfold readFigure?
  rw [htoken]
  dsimp only
  rw [hnumber]
  rfl

lemma of_readFigure? {cs : List Char} {s : Sample} (h : readFigure? name labels cs = some s) :
    s.name = name ∧ s.labels = labels := by
  unfold readFigure? at h
  dsimp only at h
  split at h
  · obtain ⟨number, -, rfl⟩ := Option.map_eq_some_iff.mp h
    exact ⟨rfl, rfl⟩
  · cases h

lemma readSample?_labelled (hname : isName inMetricName name = true) (cs : List Char) :
    readSample? (name.toList ++ '\x7b' :: cs) =
      (readLabels? (cs.length + 1) cs).bind fun read => readFigure? name read.1 read.2 := by
  unfold readSample?
  rw [readName?_append hname (by decide), Option.bind_eq_bind, Option.bind_some]
  rfl

lemma length_le_moreLabels (labels : LabelSet) : labels.length ≤ (moreLabels labels).length := by
  induction labels with
  | nil => exact Nat.zero_le _
  | cons label labels ih =>
    rw [moreLabels, List.length_cons, List.length_cons, List.length_append]
    omega

/-- A sample is read as it is written if its labels are plain. -/
theorem readSample?_written (hname : isName inMetricName name = true) (hnamed : Named labels)
    (hplain : ∀ l ∈ labels, Plain l.2) (hnumber : readNumber? number = some n) :
    readSample? (sampleChars name labels number) = some { name, labels, number := n } := by
  have hspace := dropWhile_number hnumber
  cases labels with
  | nil =>
    have hnotBrace : '\x7b' ∉ number := fun hbrace =>
      absurd (inNumber_of_readNumber? hnumber _ hbrace) (by decide)
    change readSample? (name.toList ++ ' ' :: number) = _
    unfold readSample?
    rw [readName?_append hname (by decide), Option.bind_eq_bind, Option.bind_some]
    dsimp only
    rw [hspace]
    split
    · exact absurd List.mem_cons_self hnotBrace
    · exact readFigure?_number hnumber [] hspace
  | cons label labels =>
    have hlength := length_le_moreLabels labels
    have hfuel : labels.length ≤
        (labelChars label ++ (moreLabels labels ++ ' ' :: number)).length := by
      rw [List.length_append, List.length_append]
      omega
    rw [sampleChars, toList_labelText, List.cons_append, List.append_assoc,
      readSample?_labelled hname, readLabels?_plain hnamed hplain hfuel, Option.bind_some]
    exact readFigure?_number hnumber _ hspace

/-- What is read from the first line of a sample has its name, and it has its labels only if they
are plain. -/
theorem plain_of_readSample? {label : String × String} (hname : isName inMetricName name = true)
    (hnamed : Named (label :: labels)) {s : Sample}
    (h : readSample? (firstLine (sampleChars name (label :: labels) number)) = some s) :
    s.name = name ∧ (s.labels = label :: labels → ∀ l ∈ label :: labels, Plain l.2) := by
  have hfirst : firstLine (sampleChars name (label :: labels) number) = name.toList ++ '\x7b' ::
      firstLine (labelChars label ++ (moreLabels labels ++ ' ' :: number)) := by
    rw [sampleChars, toList_labelText, firstLine_append (not_mem_name (by decide) hname),
      List.cons_append, List.append_assoc]
    rfl
  rw [hfirst, readSample?_labelled hname] at h
  obtain ⟨⟨read, rest⟩, hread, hfigure⟩ := Option.bind_eq_some_iff.mp h
  obtain ⟨hsame, hlabels⟩ := of_readFigure? hfigure
  refine ⟨hsame, fun heq => ?_⟩
  obtain rfl : read = label :: labels := hlabels.symm.trans heq
  exact plain_of_readLabels? hnamed hread

/-- A line that begins with a name is a sample. -/
lemma readLine?_name (hname : isName inMetricName name = true) {line : String} {cs : List Char}
    (hline : line.toList = name.toList ++ cs) :
    readLine? line = (readSample? line.toList).map some := by
  obtain ⟨⟨c, others, heq, -⟩, hchars⟩ := name_cases hname
  have hc : inMetricName c = true := hchars c (heq ▸ List.mem_cons_self)
  have hspace : ¬ isSpace c = true := not_isSpace (by decide) (by decide) hc
  have hcomment : c ≠ '#' := by
    rintro rfl
    exact absurd hc (by decide)
  unfold readLine?
  rw [hline, heq, List.cons_append, List.dropWhile_cons_of_neg hspace]
  split
  · next hnil => cases hnil
  · next hmark => exact absurd (List.cons.inj hmark).1 hcomment
  · rfl

end Samples

/-! ### Lines -/

lemma readLine?_comment {line : String} (h : line.toList.head? = some '#') :
    readLine? line = some none := by
  obtain ⟨cs, hcs⟩ := List.head?_eq_some_iff.mp h
  unfold readLine?
  rw [hcs]
  rfl

lemma readLines?_cons (line : String) (lines : List String) :
    readLines? (line :: lines) =
      (readLine? line).bind fun s => (readLines? lines).map (s.toList ++ ·) := by
  rw [readLines?]
  cases readLine? line with
  | none => rfl
  | some s => cases readLines? lines <;> rfl

lemma splitChars_firstLine (cs : List Char) :
    ∃ more, Text.splitChars '\n' cs = firstLine cs :: more := by
  induction cs with
  | nil => exact ⟨[], rfl⟩
  | cons c cs ih =>
    obtain ⟨more, hmore⟩ := ih
    rw [Text.splitChars, firstLine]
    by_cases hc : c = '\n'
    · rw [if_pos hc, List.takeWhile_cons_of_neg (by simpa using hc)]
      exact ⟨_, rfl⟩
    · rw [if_neg hc, hmore, List.takeWhile_cons_of_pos (by simpa using hc)]
      exact ⟨more, rfl⟩

lemma split_firstLine (text : String) :
    ∃ more, Text.split '\n' text = String.ofList (firstLine text.toList) :: more := by
  obtain ⟨more, hmore⟩ := splitChars_firstLine text.toList
  exact ⟨_, by rw [Text.split, hmore, List.map_cons]⟩

end ChatEngine.Exposition
