import ChatEngine.Proofs.TrimmedTexts
import ChatEngine.Reply.Pending

/-!
# The grammar of mentions

A trimmed text addresses the bot if it starts with one of the forms of `Addresses`. For ids and
names made of letters and digits (`Identity.Plain`) no text starts with two different forms, so the
order in which they are tried makes no difference.
-/

namespace ChatEngine
open Text

variable {σ : Type}

/-! ### Words -/

namespace Text

/-- Whether a text is not empty and consists of letters and numbers, of any script, and
underscores. -/
structure Word (s : String) : Prop where
  nonempty : s ≠ ""
  all : ∀ c ∈ s.toList, isWord c = true

lemma not_inRanges_of_apart {ranges others : List (Nat × Nat)} {n : Nat}
    (apart : ∀ e ∈ ranges, ∀ e' ∈ others, e.2 < e'.1 ∨ e'.2 < e.1) (h : inRanges ranges n = true) :
    inRanges others n = false := by
  obtain ⟨⟨first, last⟩, hmem, hin⟩ := List.any_eq_true.mp h
  refine List.any_eq_false.mpr fun ⟨first', last'⟩ hmem' => ?_
  have hapart := apart _ hmem _ hmem'
  simp only [Bool.and_eq_true, decide_eq_true_eq] at hin ⊢
  omega

/-- No character of a word is a blank. -/
lemma isBlank_of_isWord {c : Char} (h : isWord c = true) : isBlank c = false := by
  by_cases hascii : c.toNat < 0x80
  · have hall : ∀ n < 0x80, isWord (Char.ofNat n) = true → isBlank (Char.ofNat n) = false := by
      decide +kernel
    have hc := hall c.toNat hascii
    rw [Char.ofNat_toNat] at hc
    exact hc h
  · rw [isWord, if_neg hascii] at h
    exact not_inRanges_of_apart (by decide +kernel) h

lemma Word.exists_cons {s : String} (h : Word s) :
    ∃ c rest, s.toList = c :: rest ∧ isWord c = true := by
  cases hs : s.toList with
  | nil => exact absurd (String.toList_eq_nil_iff.mp hs) h.nonempty
  | cons c rest => exact ⟨c, rest, rfl, h.all c (by rw [hs]; exact .head _)⟩

lemma Word.append_ne_cons {w : String} (h : Word w) {c : Char} (hc : isWord c = false)
    (rest : List Char) {rest' : List Char} : w.toList ++ rest ≠ c :: rest' := by
  obtain ⟨d, more, hw, hd⟩ := h.exists_cons
  rw [hw]
  intro heq
  rw [(List.cons.inj heq).1, hc] at hd
  cases hd

/-- A word ends before the first character that is none of a word. -/
lemma Word.append_cons_inj {w w' : String} (h : Word w) (h' : Word w') {c : Char}
    {rest rest' : List Char} (hc : isWord c = false)
    (heq : w.toList ++ c :: rest = w'.toList ++ c :: rest') : w = w' ∧ rest = rest' := by
  have htake := congrArg (List.takeWhile isWord) heq
  rw [List.takeWhile_append_of_pos h.all, List.takeWhile_append_of_pos h'.all,
    List.takeWhile_cons_of_neg (by simp [hc]), List.takeWhile_cons_of_neg (by simp [hc]),
    List.append_nil, List.append_nil] at htake
  rw [htake] at heq
  exact ⟨String.toList_inj.mp htake, (List.cons.inj (List.append_cancel_left heq)).2⟩

end Text

/-! ### Mentions -/

/-- A known identity whose id and name are words. -/
structure Identity.Plain (i : Identity) (id name : String) : Prop where
  userId : i.userId = some id
  userName : i.userName = some name
  id_word : Word id
  name_word : Word name

/-- The texts that address the bot, with what they say to it. -/
inductive Addresses (id name : String) : List Char → List Char → Prop
  | mention {said : List Char} (plain : said.head? ≠ some ':') :
      Addresses id name (("<@" ++ id ++ ">").toList ++ said) said
  | mentionColon {said : List Char} : Addresses id name (("<@" ++ id ++ ">:").toList ++ said) said
  | label {who : String} {said : List Char} (own : who = id ∨ who = name) :
      Addresses id name ((who ++ ":").toList ++ said) said
  | call {who : String} {said : List Char} (own : who = id ∨ who = name) :
      Addresses id name (("@" ++ who ++ " ").toList ++ said) said

/-- The ways to address the bot before a text. -/
def spellings (id name : String) : List String :=
  ["<@" ++ id ++ "> ", "<@" ++ id ++ ">: ", id ++ ": ", "@" ++ id ++ " ", name ++ ": ",
    "@" ++ name ++ " "]

lemma toList_label (who : String) (said : List Char) :
    (who ++ ":").toList ++ said = who.toList ++ ':' :: said := by
  simp

lemma toList_call (who : String) (said : List Char) :
    ("@" ++ who ++ " ").toList ++ said = '@' :: (who.toList ++ ' ' :: said) := by
  simp

/-- Which of the openings is tried first makes no difference if they leave the same. -/
lemma dropOpening?_eq_some_iff {openings : List String} {cs rest : List Char}
    (same : ∀ opening ∈ openings, ∀ other ∈ openings, ∀ rest rest',
      cs = opening.toList ++ rest → cs = other.toList ++ rest' → rest = rest') :
    dropOpening? openings cs = some rest ↔ ∃ opening ∈ openings, cs = opening.toList ++ rest := by
  constructor
  · intro h
    obtain ⟨opening, hmem, hdrop⟩ := List.exists_of_findSome?_eq_some h
    exact ⟨opening, hmem, dropLead?_eq_some_iff.mp hdrop⟩
  · rintro ⟨opening, hmem, heq⟩
    cases hfound : dropOpening? openings cs with
    | none =>
      have hnone := List.findSome?_eq_none_iff.mp hfound opening hmem
      rw [dropLead?_eq_some_iff.mpr heq] at hnone
      cases hnone
    | some rest' =>
      obtain ⟨other, hmem', hdrop⟩ := List.exists_of_findSome?_eq_some hfound
      rw [same other hmem' opening hmem rest' rest (dropLead?_eq_some_iff.mp hdrop) heq]

section
variable {i : Identity} {id name : String}

namespace Identity.Plain

lemma mention_eq (plain : i.Plain id name) : i.mention = "<@" ++ id ++ ">" := by
  rw [mention, idText, plain.userId, Option.getD_some]

lemma mem_openings (plain : i.Plain id name) {opening : String} :
    opening ∈ i.openings ↔
      ∃ who, (who = id ∨ who = name) ∧ (opening = who ++ ":" ∨ opening = "@" ++ who ++ " ") := by
  have hopenings : i.openings = [id ++ ":", "@" ++ id ++ " ", name ++ ":", "@" ++ name ++ " "] := by
    unfold openings
    rw [idText, plain.userId, plain.userName, Option.getD_some]
    split
    · next h => cases h
    · next h => exact absurd (Option.some.inj h) plain.name_word.nonempty
    · next h => rw [Option.some.inj h]; rfl
  rw [hopenings]
  constructor
  · intro h
    simp only [List.mem_cons, List.not_mem_nil, or_false] at h
    rcases h with h | h | h | h
    · exact ⟨id, .inl rfl, .inl h⟩
    · exact ⟨id, .inl rfl, .inr h⟩
    · exact ⟨name, .inr rfl, .inl h⟩
    · exact ⟨name, .inr rfl, .inr h⟩
  · rintro ⟨who, rfl | rfl, rfl | rfl⟩ <;> simp

lemma word (plain : i.Plain id name) {who : String} (own : who = id ∨ who = name) : Word who := by
  rcases own with rfl | rfl
  · exact plain.id_word
  · exact plain.name_word

/-- No text starts with two openings that leave different rests. -/
lemma same_rest (plain : i.Plain id name) (cs : List Char) :
    ∀ opening ∈ i.openings, ∀ other ∈ i.openings, ∀ rest rest',
      cs = opening.toList ++ rest → cs = other.toList ++ rest' → rest = rest' := by
  intro opening hopening other hother rest rest' heq heq'
  obtain ⟨who, own, hform⟩ := plain.mem_openings.mp hopening
  obtain ⟨who', own', hform'⟩ := plain.mem_openings.mp hother
  have hword := plain.word own
  have hword' := plain.word own'
  rw [heq] at heq'
  -- A label starts with a character of a word, and a call does not.
  rcases hform with rfl | rfl <;> rcases hform' with rfl | rfl
  · rw [toList_label, toList_label] at heq'
    exact (hword.append_cons_inj hword' (by decide) heq').2
  · rw [toList_label, toList_call] at heq'
    exact absurd heq' (hword.append_ne_cons (by decide) _)
  · rw [toList_label, toList_call] at heq'
    exact absurd heq'.symm (hword'.append_ne_cons (by decide) _)
  · rw [toList_call, toList_call] at heq'
    exact (hword.append_cons_inj hword' (by decide) (List.cons.inj heq').2).2

end Identity.Plain

lemma dropColon_eq_iff {cs said : List Char} :
    dropColon cs = said ↔ cs = said ∧ said.head? ≠ some ':' ∨ cs = ':' :: said := by
  constructor
  · rintro rfl
    unfold dropColon
    split
    · exact .inr rfl
    · next hcolon =>
      refine .inl ⟨rfl, fun hhead => ?_⟩
      obtain ⟨rest, hrest⟩ := List.head?_eq_some_iff.mp hhead
      exact hcolon rest hrest
  · rintro (⟨rfl, hhead⟩ | rfl)
    · unfold dropColon
      split
      · exact absurd rfl hhead
      · rfl
    · rfl

/-- What a trimmed text says to the bot, if it is addressed to it. -/
def Identity.said? (i : Identity) (cs : List Char) : Option (List Char) :=
  ((dropLead? i.mention.toList cs).map dropColon).or (dropOpening? i.openings cs)

lemma stripMention_eq (text : String) (i : Identity) :
    stripMention text (some i) =
      match i.said? (trimChars text.toList) with
      | some said => (true, String.ofList (trimChars said))
      | none => (false, trim text) := by
  unfold stripMention Identity.said?
  dsimp only
  cases dropLead? i.mention.toList (trimChars text.toList) with
  | some rest => rfl
  | none =>
    rw [Option.map_none, Option.none_or]
    cases dropOpening? i.openings (trimChars text.toList) <;> rfl

lemma toList_mention (id : String) (said : List Char) :
    ("<@" ++ id ++ ">").toList ++ said = '<' :: '@' :: (id.toList ++ '>' :: said) := by
  simp

lemma toList_mentionColon (id : String) (said : List Char) :
    ("<@" ++ id ++ ">:").toList ++ said = ("<@" ++ id ++ ">").toList ++ ':' :: said := by
  simp

lemma Identity.Plain.dropMention_eq_some_iff (plain : i.Plain id name) {cs said : List Char} :
    (dropLead? i.mention.toList cs).map dropColon = some said ↔
      cs = ("<@" ++ id ++ ">").toList ++ said ∧ said.head? ≠ some ':' ∨
        cs = ("<@" ++ id ++ ">:").toList ++ said := by
  rw [Option.map_eq_some_iff, plain.mention_eq, toList_mentionColon]
  simp only [dropLead?_eq_some_iff, dropColon_eq_iff]
  constructor
  · rintro ⟨rest, rfl, ⟨rfl, hhead⟩ | rfl⟩
    · exact .inl ⟨rfl, hhead⟩
    · exact .inr rfl
  · rintro (⟨rfl, hhead⟩ | rfl)
    · exact ⟨said, rfl, .inl ⟨rfl, hhead⟩⟩
    · exact ⟨_, rfl, .inr rfl⟩

lemma Identity.Plain.dropOpening_eq_some_iff (plain : i.Plain id name) {cs said : List Char} :
    dropOpening? i.openings cs = some said ↔
      ∃ who, (who = id ∨ who = name) ∧
        (cs = (who ++ ":").toList ++ said ∨ cs = ("@" ++ who ++ " ").toList ++ said) := by
  rw [dropOpening?_eq_some_iff (plain.same_rest cs)]
  constructor
  · rintro ⟨opening, hmem, rfl⟩
    obtain ⟨who, own, rfl | rfl⟩ := plain.mem_openings.mp hmem
    · exact ⟨who, own, .inl rfl⟩
    · exact ⟨who, own, .inr rfl⟩
  · rintro ⟨who, own, rfl | rfl⟩
    · exact ⟨_, plain.mem_openings.mpr ⟨who, own, .inl rfl⟩, rfl⟩
    · exact ⟨_, plain.mem_openings.mpr ⟨who, own, .inr rfl⟩, rfl⟩

/-- A text that starts with another opening does not start with the mention markup. -/
lemma Identity.Plain.dropMention_of_opening (plain : i.Plain id name) {cs said : List Char}
    (h : dropOpening? i.openings cs = some said) : dropLead? i.mention.toList cs = none := by
  refine Option.eq_none_iff_forall_ne_some.mpr fun rest hrest => ?_
  rw [dropLead?_eq_some_iff, plain.mention_eq, toList_mention] at hrest
  obtain ⟨who, own, hlabel | hcall⟩ := plain.dropOpening_eq_some_iff.mp h
  · rw [hrest, toList_label] at hlabel
    exact (plain.word own).append_ne_cons (by decide) _ hlabel.symm
  · rw [hrest, toList_call] at hcall
    cases hcall

/-- The forms of the grammar are what is recognized. -/
lemma Identity.Plain.said?_eq_some_iff (plain : i.Plain id name) {cs said : List Char} :
    i.said? cs = some said ↔ Addresses id name cs said := by
  unfold said?
  constructor
  · intro h
    rcases Option.or_eq_some_iff.mp h with h | ⟨-, h⟩
    · rcases plain.dropMention_eq_some_iff.mp h with ⟨rfl, hhead⟩ | rfl
      · exact .mention hhead
      · exact .mentionColon
    · obtain ⟨who, own, rfl | rfl⟩ := plain.dropOpening_eq_some_iff.mp h
      · exact .label own
      · exact .call own
  · intro h
    have hopening (hdrop : dropOpening? i.openings cs = some said) :
        ((dropLead? i.mention.toList cs).map dropColon).or (dropOpening? i.openings cs) =
          some said := by
      rw [plain.dropMention_of_opening hdrop, hdrop]
      rfl
    cases h with
    | mention notColon =>
      rw [plain.dropMention_eq_some_iff.mpr (.inl ⟨rfl, notColon⟩), Option.some_or]
    | mentionColon => rw [plain.dropMention_eq_some_iff.mpr (.inr rfl), Option.some_or]
    | label own => exact hopening (plain.dropOpening_eq_some_iff.mpr ⟨_, own, .inl rfl⟩)
    | call own => exact hopening (plain.dropOpening_eq_some_iff.mpr ⟨_, own, .inr rfl⟩)

/-! ### Spellings -/

/-- A spelling before a text addresses the bot with the text, after a blank or none. -/
lemma addresses_of_spelling {lead : String} (h : lead ∈ spellings id name) :
    ∃ gap, Blank gap ∧ ∀ said, Addresses id name (lead.toList ++ said) (gap ++ said) := by
  have hblank : Blank [' '] := fun c hc => by
    rw [List.mem_singleton.mp hc]
    decide
  have hlabel (who : String) (own : who = id ∨ who = name) : ∃ gap, Blank gap ∧
      ∀ said, Addresses id name ((who ++ ": ").toList ++ said) (gap ++ said) := by
    refine ⟨[' '], hblank, fun said => ?_⟩
    have htext : (who ++ ": ").toList ++ said = (who ++ ":").toList ++ ([' '] ++ said) := by simp
    rw [htext]
    exact .label own
  simp only [spellings, List.mem_cons, List.not_mem_nil, or_false] at h
  rcases h with rfl | rfl | rfl | rfl | rfl | rfl
  · refine ⟨[' '], hblank, fun said => ?_⟩
    have htext : ("<@" ++ id ++ "> ").toList ++ said =
        ("<@" ++ id ++ ">").toList ++ ([' '] ++ said) := by simp
    rw [htext]
    exact .mention (by simp)
  · refine ⟨[' '], hblank, fun said => ?_⟩
    have htext : ("<@" ++ id ++ ">: ").toList ++ said =
        ("<@" ++ id ++ ">:").toList ++ ([' '] ++ said) := by simp
    rw [htext]
    exact .mentionColon
  · exact hlabel id (.inl rfl)
  · exact ⟨[], blank_nil, fun said => .call (.inl rfl)⟩
  · exact hlabel name (.inr rfl)
  · exact ⟨[], blank_nil, fun said => .call (.inr rfl)⟩

lemma Identity.Plain.spelling_first (plain : i.Plain id name) {lead : String}
    (h : lead ∈ spellings id name) : ∃ c, lead.toList.head? = some c ∧ isBlank c = false := by
  have hword (who more : String) (own : who = id ∨ who = name) :
      ∃ c, (who ++ more).toList.head? = some c ∧ isBlank c = false := by
    obtain ⟨c, rest, hwho, hc⟩ := (plain.word own).exists_cons
    exact ⟨c, by rw [String.toList_append, hwho]; rfl, isBlank_of_isWord hc⟩
  simp only [spellings, List.mem_cons, List.not_mem_nil, or_false] at h
  rcases h with rfl | rfl | rfl | rfl | rfl | rfl
  · exact ⟨'<', by simp, by decide⟩
  · exact ⟨'<', by simp, by decide⟩
  · exact hword id _ (.inl rfl)
  · exact ⟨'@', by simp, by decide⟩
  · exact hword name _ (.inr rfl)
  · exact ⟨'@', by simp, by decide⟩

/-- Blanks around what is said, and around the text as a whole, do not matter. -/
lemma trimChars_spelled {c : Char} {lead before body after : List Char}
    (hlead : lead.head? = some c) (hc : isBlank c = false) (hbefore : Blank before)
    (hbody : ¬Blank body) (hafter : Blank after) :
    ∃ gap, Blank gap ∧
      trimChars (before ++ (lead ++ body) ++ after) = lead ++ (gap ++ trimChars body) := by
  obtain ⟨gap, left, hsplit, hgap, hleft⟩ := exists_trimChars body
  have hne : trimChars body ≠ [] := fun hnil => hbody (trimChars_eq_nil_iff.mp hnil)
  refine ⟨gap, hgap, ?_⟩
  have htrimmed : Trimmed (lead ++ (gap ++ trimChars body)) := by
    refine ⟨fun d hd => ?_, fun d hd => (trimmed_trimChars body).last d ?_⟩
    · rw [List.head?_append, hlead] at hd
      rwa [← Option.some.inj hd]
    · rwa [← List.append_assoc, List.getLast?_append, List.getLast?_eq_some_getLast hne,
        Option.some_or, ← List.getLast?_eq_some_getLast hne] at hd
  have hparts : before ++ (lead ++ body) ++ after =
      before ++ (lead ++ (gap ++ trimChars body)) ++ (left ++ after) := by
    have hbody := congrArg (fun body => before ++ (lead ++ body) ++ after) hsplit
    simpa only [List.append_assoc] using hbody
  rw [hparts]
  exact trimChars_eq hbefore htrimmed (hleft.append hafter)

lemma Identity.Plain.stripMention_spelled (plain : i.Plain id name)
    {lead before body after : String} (h : lead ∈ spellings id name)
    (hbefore : Blank before.toList) (hbody : ¬Blank body.toList) (hafter : Blank after.toList) :
    stripMention (before ++ (lead ++ body) ++ after) (some i) = (true, trim body) := by
  obtain ⟨c, hlead, hc⟩ := plain.spelling_first h
  obtain ⟨gap, hgap, htrim⟩ := trimChars_spelled hlead hc hbefore hbody hafter
  obtain ⟨blank, hblank, haddresses⟩ := addresses_of_spelling h
  have htext : trimChars (before ++ (lead ++ body) ++ after).toList =
      lead.toList ++ (gap ++ trimChars body.toList) := by
    rw [String.toList_append, String.toList_append, String.toList_append, htrim]
  have hsaid := plain.said?_eq_some_iff.mpr (haddresses (gap ++ trimChars body.toList))
  have hgaps := hblank.append hgap
  have hrest := trimChars_eq hgaps (trimmed_trimChars body.toList) blank_nil
  rw [List.append_nil, List.append_assoc] at hrest
  rw [stripMention_eq, htext, hsaid]
  dsimp only
  rw [hrest, trim]

/-! ### What is matched -/

/-- What is left of a text is trimmed, addressed to the bot or not. -/
lemma stripMention_trimmed (text : String) (identity : Option Identity) :
    Trimmed (stripMention text identity).2.toList := by
  have htrimmed (cs : List Char) : Trimmed (String.ofList (trimChars cs)).toList := by
    rw [String.toList_ofList]
    exact trimmed_trimChars cs
  unfold stripMention
  dsimp only
  split
  · exact htrimmed _
  · split
    · exact htrimmed _
    · split
      · exact htrimmed _
      · exact htrimmed _

/-- What an action sees of a message is trimmed, after the name of its plugin as well. -/
lemma RegisteredAction.prepare_trimmed {d : Dialog σ} {event : MessageEvent}
    {message view : IncomingMessage} {r : RegisteredAction σ}
    (shown : d.incoming event = .ok (some message)) (prepared : r.prepare message = some view) :
    Trimmed view.normalizedText.toList := by
  have hmessage : Trimmed message.normalizedText.toList := by
    unfold Dialog.incoming at shown
    split at shown
    · cases shown
    · split at shown
      · cases shown
      · rw [← Option.some.inj (Except.ok.inj shown)]
        exact stripMention_trimmed _ _
  unfold prepare at prepared
  split at prepared
  · obtain ⟨rest, -, rfl⟩ := Option.map_eq_some_iff.mp prepared
    dsimp only
    rw [trim, String.toList_ofList]
    exact trimmed_trimChars _
  · rwa [← Option.some.inj prepared]

end

/-- A leading mention of the bot is stripped exactly where the trimmed text addresses the bot, and
the rest is trimmed. All ways to address it before a text are alike, and what actions see is trimmed
in any case. -/
theorem mentions_are_stripped_by_grammar {i : Identity} {id name : String}
    (plain : i.Plain id name) :
    (∀ text r, stripMention text (some i) = (true, r) ↔
      ∃ said, Addresses id name (trimChars text.toList) said ∧
        r = String.ofList (trimChars said)) ∧
    (∀ text, (¬∃ said, Addresses id name (trimChars text.toList) said) →
      stripMention text (some i) = (false, trim text)) ∧
    (∀ lead ∈ spellings id name, ∀ before body after : String, Blank before.toList →
      ¬Blank body.toList → Blank after.toList →
      stripMention (before ++ (lead ++ body) ++ after) (some i) = (true, trim body)) ∧
    ∀ (d : Dialog σ) event message (r : RegisteredAction σ) view,
      d.incoming event = .ok (some message) → r.prepare message = some view →
      Trimmed view.normalizedText.toList := by
  refine ⟨fun text r => ?_, fun text hnot => ?_, fun lead hlead before body after => ?_,
    fun d event message r view shown prepared => r.prepare_trimmed shown prepared⟩
  · simp only [← plain.said?_eq_some_iff]
    rw [stripMention_eq]
    cases i.said? (trimChars text.toList) with
    | none => simp
    | some said => simp [eq_comm]
  · have hnone : i.said? (trimChars text.toList) = none := by
      refine Option.eq_none_iff_forall_ne_some.mpr fun said hsaid => ?_
      exact hnot ⟨said, plain.said?_eq_some_iff.mp hsaid⟩
    rw [stripMention_eq, hnone]
  · exact plain.stripMention_spelled hlead

/-- A mention with a colon and blanks around it is stripped. A call that nothing follows is none:
trimming takes its blank. -/
theorem youppi_is_addressed :
    let youppi : Identity := { userId := some "UBOT", userName := some "youppi" }
    youppi.Plain "UBOT" "youppi" ∧
      stripMention "\n <@UBOT>:  karma top\t" (some youppi) = (true, "karma top") ∧
      stripMention "@youppi " (some youppi) = (false, "@youppi") := by
  intro youppi
  have plain : youppi.Plain "UBOT" "youppi" :=
    ⟨rfl, rfl, ⟨by decide, List.all_eq_true.mp (by decide)⟩,
      ⟨by decide, List.all_eq_true.mp (by decide)⟩⟩
  obtain ⟨-, hother, hspelled, -⟩ := mentions_are_stripped_by_grammar (σ := Unit) plain
  have hbefore : Blank "\n ".toList := List.all_eq_true.mp (by decide)
  have hbody : ¬Blank " karma top".toList := fun h => absurd (h 'k' (by decide)) (by decide)
  have hafter : Blank "\t".toList := List.all_eq_true.mp (by decide)
  have hsaid : youppi.said? (trimChars "@youppi ".toList) = none := by decide
  refine ⟨plain, ?_, hother "@youppi " fun ⟨said, h⟩ => ?_⟩
  · exact hspelled "<@UBOT>: " (by decide) "\n " " karma top" "\t" hbefore hbody hafter
  · rw [plain.said?_eq_some_iff.mpr h] at hsaid
    cases hsaid

end ChatEngine
