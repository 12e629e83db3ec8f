import ChatEngine.Proofs.KarmaScores
import ChatEngine.Proofs.MentionGrammar
import ChatEngine.Proofs.PatternMatches

/-!
# Changed things

A message changes the score of the first thing in it that a sign of change follows at once, where a
thing is a mention or a maximal run of word characters (`Stands`). Reading a thing without looking
back finds the same as searching for the pattern of blanks, thing and sign, which tries every start
and every length of the runs in order of preference (`searchGroups?`): at one start there is at most
one way to match, as no character of a thing can be a blank before it or a sign after it.
-/

namespace ChatEngine.Karma
open Text

variable {σ : Type}

/-! ### Things before a change -/

def Change.sign : Change → List Char
  | .gain => ['+', '+']
  | .loss => ['-', '-']

def IsMention (thing : List Char) : Prop :=
  ∃ name, name ≠ [] ∧ (∀ c ∈ name, isWord c = true) ∧ thing = '<' :: '@' :: name ++ ['>']

def IsRun (thing : List Char) : Prop := thing ≠ [] ∧ ∀ c ∈ thing, isWord c = true

/-- Whether a run of word characters between others goes on at neither end. -/
structure IsMaximalRun (before run after : List Char) : Prop where
  run : IsRun run
  left : ∀ c ∈ before.getLast?, isWord c = false
  right : ∀ c ∈ after.head?, isWord c = false

/-- Whether a thing stands in a text after the given characters, and the sign of the change follows
it at once. -/
def Stands (text before thing : List Char) (change : Change) : Prop :=
  ∃ after, text = before ++ (thing ++ (change.sign ++ after)) ∧
    (IsMention thing ∨ IsMaximalRun before thing (change.sign ++ after))

/-- Whether a thing stands in a text before which none stands. -/
def StandsFirst (text thing : List Char) (change : Change) : Prop :=
  ∃ before, Stands text before thing change ∧
    ∀ before' thing' change', Stands text before' thing' change' → before.length ≤ before'.length

/-- Whether characters begin with blanks, a thing and the sign of a change. -/
def Begins (cs thing : List Char) (change : Change) : Prop :=
  ∃ blanks after, cs = blanks ++ (thing ++ (change.sign ++ after)) ∧ Blank blanks ∧
    (IsMention thing ∨ IsRun thing)

lemma isWord_of_mem_sign {change : Change} {after : List Char} :
    ∀ c ∈ (change.sign ++ after).head?, isWord c = false := by
  cases change <;> simp [Change.sign] <;> decide

lemma not_isBlank_of_thing {thing : List Char} (rest : List Char)
    (h : IsMention thing ∨ IsRun thing) :
    ∀ c ∈ (thing ++ rest).head?, isBlank c = false := by
  intro c hc
  rcases h with ⟨name, -, -, rfl⟩ | ⟨hne, hall⟩
  · cases hc
    decide
  · cases thing with
    | nil => exact absurd rfl hne
    | cons d thing =>
      cases hc
      exact isBlank_of_isWord (hall _ List.mem_cons_self)

/-! ### Reading from the start -/

lemma readChange?_eq_some_iff {cs : List Char} {change : Change} :
    readChange? cs = some change ↔ ∃ after, cs = change.sign ++ after := by
  constructor
  · intro h
    unfold readChange? at h
    split at h
    · cases h
      exact ⟨_, rfl⟩
    · cases h
      exact ⟨_, rfl⟩
    · cases h
  · rintro ⟨after, rfl⟩
    cases change <;> rfl

lemma takeWhile_isWord_append {name rest : List Char} (all : ∀ c ∈ name, isWord c = true)
    (ends : ∀ c ∈ rest.head?, isWord c = false) :
    (name ++ rest).takeWhile isWord = name ∧ (name ++ rest).dropWhile isWord = rest := by
  rw [List.takeWhile_append_of_pos all, List.dropWhile_append_of_pos all]
  cases rest with
  | nil => simp
  | cons c rest =>
    have hc := ends c rfl
    simp [hc]

lemma readMention?_eq_some_iff {cs thing rest : List Char} :
    readMention? cs = some (thing, rest) ↔ IsMention thing ∧ cs = thing ++ rest := by
  constructor
  · intro h
    obtain ⟨inner, hinner, h⟩ := Option.bind_eq_some_iff.mp h
    have hsplit := List.takeWhile_append_dropWhile (p := isWord) (l := inner)
    dsimp only at h
    split at h
    · next c name rest' hname hrest =>
      cases h
      refine ⟨⟨c :: name, List.cons_ne_nil _ _, fun d hd => ?_, by rw [hname]⟩, ?_⟩
      · rw [← hname] at hd
        exact List.mem_takeWhile_imp hd
      · rw [hrest] at hsplit
        have htext := congrArg (['<', '@'] ++ ·) hsplit.symm
        rw [dropLead?_eq_some_iff.mp hinner]
        exact htext.trans (by simp)
    · cases h
  · rintro ⟨⟨name, hne, hall, rfl⟩, rfl⟩
    have hends : ∀ c ∈ ('>' :: rest).head?, isWord c = false := by simp; decide
    obtain ⟨htake, hdrop⟩ := takeWhile_isWord_append hall hends
    have hlead : dropLead? ['<', '@'] ('<' :: '@' :: name ++ ['>'] ++ rest) =
        some (name ++ '>' :: rest) := by
      rw [dropLead?_eq_some_iff]
      simp
    rw [readMention?, hlead, Option.bind_eq_bind, Option.bind_some, htake, hdrop]
    cases name with
    | nil => exact absurd rfl hne
    | cons c name => rfl

lemma readWord?_eq_some_iff {cs thing rest : List Char} :
    readWord? cs = some (thing, rest) ↔
      IsRun thing ∧ cs = thing ++ rest ∧ ∀ c ∈ rest.head?, isWord c = false := by
  constructor
  · intro h
    unfold readWord? at h
    split at h
    · cases h
    · next hne =>
      cases h
      refine ⟨⟨hne, fun c hc => List.mem_takeWhile_imp hc⟩, ?_, fun c hc => ?_⟩
      · exact List.takeWhile_append_dropWhile.symm
      · have hfirst := List.head?_dropWhile_not isWord cs
        rw [Option.mem_def.mp hc] at hfirst
        exact hfirst
  · rintro ⟨⟨hne, hall⟩, rfl, hends⟩
    obtain ⟨htake, hdrop⟩ := takeWhile_isWord_append hall hends
    unfold readWord?
    rw [htake, hdrop]
    cases thing with
    | nil => exact absurd rfl hne
    | cons c thing => rfl

lemma readMention?_of_run {thing rest : List Char} (h : IsRun thing) :
    readMention? (thing ++ rest) = none := by
  rw [Option.eq_none_iff_forall_ne_some]
  rintro ⟨mention, rest'⟩ hread
  obtain ⟨⟨name, -, -, rfl⟩, heq⟩ := readMention?_eq_some_iff.mp hread
  obtain ⟨hne, hall⟩ := h
  cases thing with
  | nil => exact hne rfl
  | cons c thing =>
    have hc : isWord c = true := hall c List.mem_cons_self
    rw [(List.cons.inj heq).1] at hc
    revert hc
    decide

/-- A thing and its change are read off the start exactly if the characters begin with them. -/
lemma changeAt?_eq_some_iff {cs thing : List Char} {change : Change} :
    changeAt? cs = some (thing, change) ↔ Begins cs thing change := by
  constructor
  · intro h
    obtain ⟨⟨read, rest⟩, hread, h⟩ := Option.bind_eq_some_iff.mp h
    obtain ⟨found, hfound, h⟩ := Option.bind_eq_some_iff.mp h
    cases h
    obtain ⟨after, rfl⟩ := readChange?_eq_some_iff.mp hfound
    have hblank : Blank (cs.takeWhile isBlank) := fun c hc => List.mem_takeWhile_imp hc
    have hsplit := List.takeWhile_append_dropWhile (p := isBlank) (l := cs)
    rcases Option.or_eq_some_iff.mp hread with hmention | ⟨-, hword⟩
    · obtain ⟨hthing, heq⟩ := readMention?_eq_some_iff.mp hmention
      exact ⟨_, after, by rw [← heq, hsplit], hblank, .inl hthing⟩
    · obtain ⟨hthing, heq, -⟩ := readWord?_eq_some_iff.mp hword
      exact ⟨_, after, by rw [← heq, hsplit], hblank, .inr hthing⟩
  · rintro ⟨blanks, after, rfl, hblank, hthing⟩
    have hdrop := dropWhile_isBlank_eq hblank
      (not_isBlank_of_thing (change.sign ++ after) hthing)
    have hread : (readMention? (thing ++ (change.sign ++ after))).or
        (readWord? (thing ++ (change.sign ++ after))) = some (thing, change.sign ++ after) := by
      rcases hthing with hmention | hrun
      · rw [readMention?_eq_some_iff.mpr ⟨hmention, rfl⟩, Option.some_or]
      · rw [readMention?_of_run hrun, Option.none_or, readWord?_eq_some_iff]
        exact ⟨hrun, rfl, isWord_of_mem_sign⟩
    rw [changeAt?, hdrop, hread, Option.bind_eq_bind, Option.bind_some]
    dsimp only
    rw [readChange?_eq_some_iff.mpr ⟨after, rfl⟩]
    rfl

/-! ### The first place -/

lemma Stands.begins {text before thing : List Char} {change : Change}
    (h : Stands text before thing change) :
    ∃ rest, text = before ++ rest ∧ Begins rest thing change := by
  obtain ⟨after, htext, hthing⟩ := h
  exact ⟨_, htext, [], after, rfl, blank_nil, hthing.imp_right IsMaximalRun.run⟩

/-- What is found begins at the first place where anything does. -/
lemma findChange?_eq_some {cs : List Char} {found : List Char × Change}
    (h : findChange? cs = some found) :
    ∃ before rest, cs = before ++ rest ∧ Begins rest found.1 found.2 ∧
      ∀ before' rest' thing change, cs = before' ++ rest' → Begins rest' thing change →
        before.length ≤ before'.length := by
  induction cs with
  | nil => cases h
  | cons c cs ih =>
    rcases Option.or_eq_some_iff.mp h with hhere | ⟨hnone, hlater⟩
    · exact ⟨[], c :: cs, rfl, changeAt?_eq_some_iff.mp hhere, fun _ _ _ _ _ _ => Nat.zero_le _⟩
    · obtain ⟨before, rest, rfl, hbegins, hfirst⟩ := ih hlater
      refine ⟨c :: before, rest, rfl, hbegins, fun before' rest' thing change heq hbegins' => ?_⟩
      cases before' with
      | nil =>
        rw [List.nil_append] at heq
        rw [heq, changeAt?_eq_some_iff.mpr hbegins'] at hnone
        cases hnone
      | cons d before' =>
        have htail := (List.cons.inj heq).2
        exact Nat.succ_le_succ (hfirst before' rest' thing change htail hbegins')

lemma findChange?_ne_none {before rest thing : List Char} {change : Change}
    (h : Begins rest thing change) : findChange? (before ++ rest) ≠ none := by
  induction before with
  | nil =>
    have hat := changeAt?_eq_some_iff.mpr h
    cases rest with
    | nil => cases hat
    | cons c rest => simp [findChange?, hat]
  | cons c before ih =>
    intro hnone
    exact ih (Option.or_eq_none_iff.mp hnone).2

/-- A run that is found goes on at neither end: it would have been found earlier. -/
lemma stands_of_first {before blanks thing after : List Char} {change : Change}
    (hblank : Blank blanks) (hthing : IsMention thing ∨ IsRun thing)
    (first : ∀ before' rest' thing' change',
      before ++ (blanks ++ (thing ++ (change.sign ++ after))) = before' ++ rest' →
        Begins rest' thing' change' → before.length ≤ before'.length) :
    Stands (before ++ (blanks ++ (thing ++ (change.sign ++ after)))) (before ++ blanks) thing
      change := by
  refine ⟨after, (List.append_assoc _ _ _).symm, hthing.imp_right fun hrun => ?_⟩
  refine ⟨hrun, fun c hc => ?_, isWord_of_mem_sign⟩
  by_contra hword
  rw [Bool.not_eq_false] at hword
  rcases List.eq_nil_or_concat blanks with rfl | ⟨blanks', d, rfl⟩
  · -- The run could be found one character earlier.
    rw [List.append_nil, Option.mem_def, List.getLast?_eq_some_iff] at hc
    obtain ⟨before', rfl⟩ := hc
    have hlonger : IsRun (c :: thing) :=
      ⟨List.cons_ne_nil _ _, List.forall_mem_cons.mpr ⟨hword, hrun.2⟩⟩
    have hearlier := first before' (c :: thing ++ (change.sign ++ after)) (c :: thing) change
      (by simp) ⟨[], after, rfl, blank_nil, .inr hlonger⟩
    simp only [List.length_append, List.length_singleton] at hearlier
    omega
  · rw [List.concat_eq_append, ← List.append_assoc, List.getLast?_concat] at hc
    obtain rfl := Option.some.inj hc
    have hlast := hblank d (by simp)
    rw [isBlank_of_isWord hword] at hlast
    cases hlast

/-- No place begins within the blanks before a thing. -/
lemma le_of_stands {before blanks rest before' thing : List Char} {change : Change}
    (hblank : Blank blanks) (h : Stands (before ++ (blanks ++ rest)) before' thing change)
    (hle : before.length ≤ before'.length) : (before ++ blanks).length ≤ before'.length := by
  obtain ⟨after, heq, hthing⟩ := h
  obtain ⟨gap, rfl⟩ := (List.prefix_of_prefix_length_le (List.prefix_append before _)
    (heq ▸ List.prefix_append before' _) hle)
  rw [List.append_assoc, List.append_cancel_left_eq] at heq
  by_contra hlt
  rw [List.length_append, List.length_append, Nat.add_le_add_iff_left, Nat.not_le] at hlt
  obtain ⟨more, rfl⟩ := List.prefix_of_prefix_length_le
    (heq ▸ List.prefix_append gap _ : gap <+: blanks ++ rest) (List.prefix_append blanks rest)
    hlt.le
  rw [List.append_assoc, List.append_cancel_left_eq] at heq
  cases more with
  | nil => simp at hlt
  | cons c more =>
    have hc := not_isBlank_of_thing (change.sign ++ after)
      (hthing.imp_right IsMaximalRun.run) c (by rw [← heq]; rfl)
    rw [hblank c (by simp)] at hc
    cases hc

/-- What is found stands at the first place where anything does. -/
lemma findChange?_eq_some_iff {text thing : List Char} {change : Change} :
    findChange? text = some (thing, change) ↔ StandsFirst text thing change := by
  have hfound : ∀ {thing change}, findChange? text = some (thing, change) →
      StandsFirst text thing change := by
    intro thing change h
    obtain ⟨before, -, rfl, ⟨blanks, after, rfl, hblank, hthing⟩, hfirst⟩ := findChange?_eq_some h
    refine ⟨before ++ blanks, stands_of_first hblank hthing hfirst, ?_⟩
    intro before' thing' change' hstands
    obtain ⟨rest', heq, hbegins⟩ := hstands.begins
    exact le_of_stands hblank hstands (hfirst before' rest' thing' change' heq hbegins)
  refine ⟨hfound, ?_⟩
  rintro ⟨before, hstands, hfirst⟩
  obtain ⟨rest, rfl, hbegins⟩ := hstands.begins
  obtain ⟨⟨thing', change'⟩, hsome⟩ := Option.ne_none_iff_exists'.mp (findChange?_ne_none hbegins)
  obtain ⟨before', hstands', hfirst'⟩ := hfound hsome
  obtain ⟨rest', heq, hbegins'⟩ := hstands'.begins
  have hlength : before.length = before'.length :=
    Nat.le_antisymm (hfirst _ _ _ hstands') (hfirst' _ _ _ hstands)
  obtain ⟨rfl, rfl⟩ := List.append_inj heq hlength
  -- At one place there is only one thing to read.
  rw [hsome, ← changeAt?_eq_some_iff.mpr hbegins, changeAt?_eq_some_iff.mpr hbegins']

/-! ### Searching for a pattern -/

def blankPattern : Pattern := .many isBlank 0

/-- A mention, or else a run of word characters. -/
def thingPattern : Pattern :=
  .alt (.inOrder [.literal ['<', '@'], .many isWord 1, .literal ['>']]) (.many isWord 1)

def signPattern : Pattern := .alt (.literal ['+', '+']) (.literal ['-', '-'])

/-- The thing and the sign in each way to match blanks, a thing and a sign at the start of a text,
the preferred way first. -/
def groupsAt (cs : List Char) : List (List Char × List Char) :=
  (blankPattern.rests cs).flatMap fun start =>
    (thingPattern.rests start).flatMap fun between =>
      (signPattern.rests between).map fun rest =>
        (start.take (start.length - between.length), between.take (between.length - rest.length))

/-- The thing and the sign in the match of the pattern that searching finds. -/
def searchGroups? (cs : List Char) : Option (List Char × List Char) :=
  cs.tails.findSome? fun suffix => (groupsAt suffix).head?

lemma matches_literal_iff {letters word : List Char} :
    (Pattern.literal letters).Matches word ↔ word = letters := by
  induction letters generalizing word with
  | nil =>
    constructor
    · rintro ⟨⟩
      rfl
    · rintro rfl
      exact .done
  | cons c letters ih =>
    constructor
    · intro h
      cases h with
      | seq first second =>
        cases first with
        | one passes =>
          rw [ih.mp second, beq_iff_eq.mp passes]
          rfl
    · rintro rfl
      exact .seq (u := [c]) (.one (beq_self_eq_true c)) (ih.mpr rfl)

lemma matches_run_iff {word : List Char} : (Pattern.many isWord 1).Matches word ↔ IsRun word := by
  constructor
  · rintro (_ | _ | ⟨pass, enough⟩)
    exact ⟨List.length_pos_iff.mp enough, pass⟩
  · rintro ⟨hne, hall⟩
    exact .many hall (List.length_pos_iff.mpr hne)

lemma matches_thingPattern_iff {thing : List Char} :
    thingPattern.Matches thing ↔ IsMention thing ∨ IsRun thing := by
  constructor
  · rintro (_ | _ | _ | _ | ⟨hmention⟩ | ⟨hrun⟩)
    · cases hmention with
      | seq hopen hrest =>
        cases hrest with
        | seq hname hrest =>
          cases hrest with
          | seq hclose hdone =>
            cases hdone
            obtain ⟨hne, hall⟩ := matches_run_iff.mp hname
            refine .inl ⟨_, hne, hall, ?_⟩
            rw [matches_literal_iff.mp hopen, matches_literal_iff.mp hclose]
            simp
    · exact .inr (matches_run_iff.mp hrun)
  · rintro (⟨name, hne, hall, rfl⟩ | hrun)
    · have hopen := matches_literal_iff.mpr (rfl : ['<', '@'] = ['<', '@'])
      have hclose := matches_literal_iff.mpr (rfl : ['>'] = ['>'])
      have hname := matches_run_iff.mpr ⟨hne, hall⟩
      have hmention := Pattern.Matches.seq hopen (.seq hname (.seq hclose .done))
      rw [List.append_nil] at hmention
      exact .left hmention
    · exact .right (matches_run_iff.mpr hrun)

lemma matches_signPattern_iff {sign : List Char} :
    signPattern.Matches sign ↔ ∃ change : Change, sign = change.sign := by
  constructor
  · rintro (_ | _ | _ | _ | ⟨hgain⟩ | ⟨hloss⟩)
    · exact ⟨.gain, matches_literal_iff.mp hgain⟩
    · exact ⟨.loss, matches_literal_iff.mp hloss⟩
  · rintro ⟨change | change, rfl⟩
    · exact .left (matches_literal_iff.mpr rfl)
    · exact .right (matches_literal_iff.mpr rfl)

lemma take_matched (word rest : List Char) :
    (word ++ rest).take ((word ++ rest).length - rest.length) = word := by
  rw [List.length_append, Nat.add_sub_cancel, List.take_left]

/-- The ways to match at a start are the things that stand there with their signs. -/
lemma mem_groupsAt {cs thing sign : List Char} :
    (thing, sign) ∈ groupsAt cs ↔ ∃ change, Begins cs thing change ∧ sign = Change.sign change := by
  simp only [groupsAt, List.mem_flatMap, List.mem_map, Pattern.mem_rests]
  constructor
  · rintro ⟨start, ⟨blanks, hblanks, rfl⟩, between, ⟨word, hword, rfl⟩, rest,
      ⟨sign, hsign, rfl⟩, heq⟩
    obtain ⟨rfl, rfl⟩ := Prod.mk.inj heq
    obtain ⟨change, rfl⟩ := matches_signPattern_iff.mp hsign
    rw [take_matched, take_matched]
    refine ⟨change, ⟨blanks, rest, rfl, ?_, matches_thingPattern_iff.mp hword⟩, rfl⟩
    cases hblanks with
    | many pass enough => exact pass
  · rintro ⟨change, ⟨blanks, after, rfl, hblank, hthing⟩, rfl⟩
    refine ⟨_, ⟨blanks, .many hblank (Nat.zero_le _), rfl⟩, _,
      ⟨thing, matches_thingPattern_iff.mpr hthing, rfl⟩, after,
      ⟨_, matches_signPattern_iff.mpr ⟨change, rfl⟩, rfl⟩, ?_⟩
    rw [take_matched, take_matched]

/-- There is at most one way to match at a start, so the preferred one is what is read there. -/
lemma head?_groupsAt (cs : List Char) :
    (groupsAt cs).head? = (changeAt? cs).map fun found => (found.1, found.2.sign) := by
  have hmem : ∀ group ∈ groupsAt cs,
      (changeAt? cs).map (fun found => (found.1, found.2.sign)) = some group := by
    rintro ⟨thing, sign⟩ hgroup
    obtain ⟨change, hbegins, rfl⟩ := mem_groupsAt.mp hgroup
    rw [changeAt?_eq_some_iff.mpr hbegins]
    rfl
  cases hgroups : groupsAt cs with
  | cons group groups => exact (hmem group (hgroups ▸ List.mem_cons_self)).symm
  | nil =>
    cases hat : changeAt? cs with
    | none => rfl
    | some found =>
      have hfound := mem_groupsAt.mpr ⟨found.2, changeAt?_eq_some_iff.mp hat, rfl⟩
      rw [hgroups] at hfound
      cases hfound

lemma searchGroups?_eq (cs : List Char) :
    searchGroups? cs = (findChange? cs).map fun found => (found.1, found.2.sign) := by
  unfold searchGroups?
  induction cs with
  | nil => rfl
  | cons c cs ih =>
    rw [List.tails_cons, List.findSome?_cons, head?_groupsAt, ih, findChange?]
    cases changeAt? (c :: cs) <;> rfl

/-! ### Answers -/

/-- Whether an effect gives an answer unless it ends with a fault. -/
def Answers (act : Effect (Host σ) (Option Answer)) : Prop := ∀ h, (act.run h).1 ≠ .ok none

namespace Answers

lemma pure (answer : Answer) :
    Answers (Pure.pure (some answer) : Effect (Host σ) (Option Answer)) := by
  intro h heq
  cases heq

lemma bind {α : Type} {act : Effect (Host σ) α} {f : α → Effect (Host σ) (Option Answer)}
    (hf : ∀ a, Answers (f a)) : Answers (act >>= f) := by
  intro h
  rw [Effect.bind_run]
  cases act.run h with
  | mk r t =>
    cases r with
    | ok a => exact hf a t
    | error fault =>
      intro heq
      cases heq

end Answers

lemma announced_answers (thing : String) (change : Change)
    (written : Except Decimal.IntegerError String) :
    Answers (announced thing change written : Effect (Host σ) (Option Answer)) := by
  cases written with
  | ok text => exact .pure _
  | error e =>
    intro h heq
    cases heq

/-- A message is left without an answer exactly if nothing in it is changed. -/
lemma answerChange_ne_none_iff (store : StringStore (Host σ)) (services : Services (Host σ))
    (m : IncomingMessage) (h : Host σ) :
    ((answerChange store services m).run h).1 ≠ .ok none ↔
      (find? m.normalizedText).isSome = true := by
  unfold answerChange
  cases find? m.normalizedText with
  | none => exact ⟨fun hne => absurd rfl hne, fun hsome => by cases hsome⟩
  | some found =>
    obtain ⟨thing, change⟩ := found
    refine iff_of_true ?_ rfl
    dsimp only
    split
    · exact Answers.pure _ h
    · refine Answers.bind (fun n => Answers.bind fun saved => ?_) h
      generalize Decimal.writeInt (change.apply n) = written
      have hsaid := announced_answers (σ := σ) thing change written
      cases saved <;> cases services.logger
      · exact .bind fun _ => hsaid
      · exact .bind fun _ => .bind fun _ => hsaid
      · exact hsaid
      · exact .bind fun _ => hsaid

/-- What a text changes is the first thing in it that a sign of change follows, the whole of it, and
nothing if there is none; searching for the pattern finds the same. So the action matches the
messages that it answers. -/
theorem first_changes_are_found (text : String) :
    (∀ thing change, find? text = some (thing, change) ↔
      StandsFirst text.toList thing.toList change) ∧
    ((find? text).isSome = true ↔
      ∃ before thing change, Stands text.toList before thing change) ∧
    searchGroups? text.toList =
      (find? text).map (fun found => (found.1.toList, found.2.sign)) ∧
    ∀ (store : StringStore (Host σ)) (services : Services (Host σ)) (m : IncomingMessage)
      (h : Host σ), (changeAction store).isMatch m = .ok true ↔
        (((changeAction store).answer services m).run h).1 ≠ .ok none := by
  refine ⟨fun thing change => ?_, ?_, ?_, fun store services m h => ?_⟩
  · rw [← findChange?_eq_some_iff, find?]
    constructor
    · intro hfind
      obtain ⟨found, hfound, heq⟩ := Option.map_eq_some_iff.mp hfind
      cases heq
      rw [String.toList_ofList]
      exact hfound
    · intro hfound
      rw [hfound, Option.map_some]
      dsimp only
      rw [String.ofList_toList]
  · rw [find?, Option.isSome_map]
    constructor
    · intro hsome
      obtain ⟨⟨thing, change⟩, hfound⟩ := Option.isSome_iff_exists.mp hsome
      obtain ⟨before, hstands, -⟩ := findChange?_eq_some_iff.mp hfound
      exact ⟨before, thing, change, hstands⟩
    · rintro ⟨before, thing, change, hstands⟩
      obtain ⟨rest, heq, hbegins⟩ := hstands.begins
      rw [heq, Option.isSome_iff_ne_none]
      exact findChange?_ne_none hbegins
  · rw [searchGroups?_eq, find?, Option.map_map]
    simp [Function.comp_def]
  · have hmatch : (changeAction store).isMatch m = .ok true ↔
        (find? m.normalizedText).isSome = true := by
      change Except.ok _ = Except.ok _ ↔ _
      rw [Except.ok.injEq]
    exact hmatch.trans (answerChange_ne_none_iff store services m h).symm

end ChatEngine.Karma
