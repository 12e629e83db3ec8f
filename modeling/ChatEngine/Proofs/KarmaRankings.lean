import ChatEngine.Proofs.KarmaScores
import ChatEngine.Proofs.TrimmedTexts
import ChatEngine.Reply.Pending
import Mathlib.Data.List.Perm.Subperm
import Mathlib.Data.List.Infix

/-!
# Rankings of the karma plugin

A ranking is the beginning of all scores in a strict order: by score, and among equals by thing
(`Precedes`). What is listed is thereby fixed for every number of things asked for (`Ranked`). The
number is read from the message, and refused if it has more digits than the text of an integer may
have.
-/

namespace ChatEngine
open Text

variable {σ : Type}

namespace Karma

/-! ### The order of a ranking -/

/-- Whether a thing with its score comes before another one: by score, the worst first or the best,
and among equals by code points. -/
def Precedes (worst : Bool) (a b : String × Int) : Prop :=
  (if worst then a.2 < b.2 else b.2 < a.2) ∨ a.2 = b.2 ∧ a.1 < b.1

/-- What a ranking of scores lists: as many as are asked for or all of them, each thing once and in
order, and everything else comes later. -/
structure Ranked (worst : Bool) (count : Nat) (scores listed : List (String × Int)) : Prop where
  length : listed.length = min count scores.length
  stored : ∀ p ∈ listed, p ∈ scores
  distinct : (listed.map Prod.fst).Nodup
  increasing : listed.Pairwise (Precedes worst)
  others : ∀ p ∈ scores, p ∉ listed → ∀ q ∈ listed, Precedes worst q p

section
variable {worst : Bool} {a b c : String × Int}

lemma not_precedes_self : ¬Precedes worst a a := by
  rintro (hscore | ⟨-, hthing⟩)
  · cases worst <;> exact Int.lt_irrefl _ hscore
  · exact String.lt_irrefl _ hthing

lemma Precedes.trans (hab : Precedes worst a b) (hbc : Precedes worst b c) :
    Precedes worst a c := by
  have hscores : (if worst then a.2 < b.2 else b.2 < a.2) →
      (if worst then b.2 < c.2 else c.2 < b.2) → if worst then a.2 < c.2 else c.2 < a.2 := by
    cases worst <;> simp only [Bool.false_eq_true, if_true, if_false] <;> omega
  rcases hab with hab | ⟨hscore, hab⟩
  · rcases hbc with hbc | ⟨hscore', -⟩
    · exact .inl (hscores hab hbc)
    · rw [hscore'] at hab
      exact .inl hab
  · rcases hbc with hbc | ⟨hscore', hbc⟩
    · rw [← hscore] at hbc
      exact .inl hbc
    · exact .inr ⟨hscore.trans hscore', String.lt_trans hab hbc⟩

lemma precedes_or_eq_or (worst : Bool) (a b : String × Int) :
    Precedes worst a b ∨ a = b ∨ Precedes worst b a := by
  rcases Int.lt_trichotomy a.2 b.2 with hscore | hscore | hscore
  · cases worst
    · exact .inr (.inr (.inl hscore))
    · exact .inl (.inl hscore)
  · by_cases hthing : a.1 < b.1
    · exact .inl (.inr ⟨hscore, hthing⟩)
    by_cases hthing' : b.1 < a.1
    · exact .inr (.inr (.inr ⟨hscore.symm, hthing'⟩))
    have heq := String.le_antisymm (String.not_lt.mp hthing') (String.not_lt.mp hthing)
    exact .inr (.inl (Prod.ext heq hscore))
  · cases worst
    · exact .inl (.inl hscore)
    · exact .inr (.inr (.inl hscore))

/-- The order that is sorted by is the strict one, and equality. -/
lemma before_iff : before worst a b = true ↔ Precedes worst a b ∨ a = b := by
  have hthing : (¬b.1 < a.1) ↔ a.1 < b.1 ∨ a.1 = b.1 := by
    constructor
    · intro hnot
      by_cases hlt : a.1 < b.1
      · exact .inl hlt
      · exact .inr (String.le_antisymm (String.not_lt.mp hnot) (String.not_lt.mp hlt))
    · rintro (hlt | heq) hlt'
      · exact String.lt_asymm hlt hlt'
      · rw [heq] at hlt'
        exact String.lt_irrefl _ hlt'
  have hscore : (if worst = true then decide (a.2 < b.2) else decide (b.2 < a.2)) = true ↔
      if worst = true then a.2 < b.2 else b.2 < a.2 := by
    cases worst <;> simp
  unfold before Precedes
  rw [Bool.or_eq_true, hscore, Bool.and_eq_true, Bool.not_eq_true', decide_eq_false_iff_not, hthing,
    beq_iff_eq, Prod.ext_iff, or_assoc]
  tauto

lemma before_trans (worst : Bool) (a b c : String × Int) (hab : before worst a b = true)
    (hbc : before worst b c = true) : before worst a c = true := by
  rw [before_iff] at hab hbc ⊢
  rcases hab with hab | rfl
  · rcases hbc with hbc | rfl
    · exact .inl (hab.trans hbc)
    · exact .inl hab
  · exact hbc

lemma before_total (worst : Bool) (a b : String × Int) :
    (before worst a b || before worst b a) = true := by
  rw [Bool.or_eq_true, before_iff, before_iff]
  rcases precedes_or_eq_or worst a b with hab | rfl | hba
  · exact .inl (.inl hab)
  · exact .inl (.inr rfl)
  · exact .inr (.inl hba)

end

/-! ### What is listed -/

section
variable (worst : Bool) {scores : List (String × Int)}

lemma pairwise_precedes (distinct : (scores.map Prod.fst).Nodup) :
    (scores.mergeSort (before worst)).Pairwise (Precedes worst) := by
  have hsorted : (scores.mergeSort (before worst)).Pairwise fun a b => before worst a b = true :=
    List.pairwise_mergeSort (before_trans worst) (before_total worst) scores
  have hnodup : (scores.mergeSort (before worst)).Nodup :=
    (List.mergeSort_perm scores _).nodup_iff.mpr distinct.of_map
  exact (hsorted.and hnodup).imp fun h => (before_iff.mp h.1).resolve_right h.2

/-- Things with scores are ranked. -/
lemma rank_ranked (count : Nat) (distinct : (scores.map Prod.fst).Nodup) :
    Ranked worst count scores (rank worst count scores) where
  length := by rw [rank, List.length_take, List.length_mergeSort]
  stored p hp := List.mem_mergeSort.mp (List.mem_of_mem_take hp)
  distinct := by
    have hperm := (List.mergeSort_perm scores (before worst)).map Prod.fst
    exact (hperm.nodup_iff.mpr distinct).sublist ((List.take_sublist _ _).map _)
  increasing := (pairwise_precedes worst distinct).sublist (List.take_sublist _ _)
  others p hp hother q hq := by
    have hsorted := pairwise_precedes worst distinct
    have hmem : p ∈ scores.mergeSort (before worst) := List.mem_mergeSort.mpr hp
    rw [← List.take_append_drop count (scores.mergeSort (before worst))] at hmem hsorted
    have hlate := (List.mem_append.mp hmem).resolve_left hother
    exact (List.pairwise_append.mp hsorted).2.2 q hq p hlate

/-- A list of all scores that is in order begins with what is ranked. -/
lemma rank_eq_take {sorted : List (String × Int)} (hperm : sorted.Perm scores)
    (hsorted : sorted.Pairwise fun a b => before worst a b = true) (count : Nat) :
    rank worst count scores = sorted.take count := by
  have hmerged := List.pairwise_mergeSort (before_trans worst) (before_total worst) scores
  have hantisymm : ∀ a b, before worst a b = true → before worst b a = true → a = b := by
    intro a b hab hba
    rcases before_iff.mp hab with hab | heq
    · rcases before_iff.mp hba with hba | heq
      · exact absurd (hab.trans hba) not_precedes_self
      · exact heq.symm
    · exact heq
  have heq := ((List.mergeSort_perm scores (before worst)).trans hperm.symm).eq_of_pairwise
    (fun a b _ _ => hantisymm a b) hmerged hsorted
  rw [rank, heq]

lemma rank_prefix (count : Nat) (scores : List (String × Int)) :
    rank worst count scores <+: rank worst (count + 1) scores :=
  List.take_prefix_take_left (Nat.le_succ count)

lemma rank_perm {count : Nat} (hcount : scores.length ≤ count) :
    (rank worst count scores).Perm scores := by
  rw [rank, List.take_of_length_le (by rwa [List.length_mergeSort])]
  exact List.mergeSort_perm _ _

end

/-! ### Reading the store and the message -/

lemma Denotes.things {entries : List (String × String)} {scores : List (String × Int)}
    (h : Denotes entries scores) : scores.map Prod.fst = entries.map Prod.fst := by
  induction h with
  | nil => rfl
  | cons hfirst _ ih => rw [List.map_cons, List.map_cons, ih, hfirst.1]

lemma dropWord?_append (word rest : List Char) : dropWord? word (word ++ rest) = some rest := by
  induction word with
  | nil => rfl
  | cons c word ih =>
    have hsame : sameLetter c c = true := by simp [sameLetter]
    rw [List.cons_append, dropWord?, if_pos hsame, ih]

lemma digits_of_countDigits? {word text : String} {digits : List Char}
    (h : countDigits? word text = some digits) :
    digits ≠ [] ∧ ∀ c ∈ digits, isDigit c = true := by
  unfold countDigits? at h
  obtain ⟨rest, -, h⟩ := Option.bind_eq_some_iff.mp h
  dsimp only at h
  split at h
  · next hfound =>
    cases h
    rw [Bool.and_eq_true, Bool.not_eq_true', List.isEmpty_eq_false_iff] at hfound
    exact ⟨hfound.2, fun c hc => List.mem_takeWhile_imp hc⟩
  · cases h

lemma countDigits?_digits {word : String} {digits : List Char} (hne : digits ≠ [])
    (h : ∀ c ∈ digits, isDigit c = true) :
    countDigits? word (word ++ " " ++ String.ofList digits) = some digits := by
  have htext : (word ++ " " ++ String.ofList digits).toList = word.toList ++ ' ' :: digits := by
    simp
  have hrest : (' ' :: digits).dropWhile isBlank = digits := by
    rw [List.dropWhile_cons_of_pos (by decide), List.dropWhile_eq_self_iff]
    intro hpos
    rw [Decimal.isBlank_of_digit (h _ (List.getElem_mem hpos))]
    exact Bool.false_ne_true
  have htake : digits.takeWhile isDigit = digits := List.takeWhile_eq_self_iff.mpr h
  have hdigits : digits.isEmpty = false := List.isEmpty_eq_false_iff.mpr hne
  unfold countDigits?
  rw [htext, dropWord?_append, Option.bind_eq_bind, Option.bind_some]
  dsimp only
  rw [hrest, htake, hdigits]
  rfl

/-- A number with few enough digits is answered with the things of the ranking. -/
lemma answerRanking_run {store : StringStore (Host σ)} {h : Host σ}
    {entries : List (String × String)} {scores : List (String × Int)}
    (scanned : (store.scan.run h).1 = .ok entries) (denotes : Denotes entries scores)
    {worst : Bool} {m : IncomingMessage} {digits : List Char} {n : Nat}
    (hdigits : countDigits? (rankingWord worst) m.normalizedText = some digits)
    (hn : Decimal.readInt (String.ofList digits) = .ok n) :
    ((answerRanking store worst m).run h).1 =
      .ok (some { text := listing worst n (rank worst n scores) }) := by
  have hnat : (n : Int).toNat = n := Int.toNat_natCast n
  have hpairs := ranking_run scanned (readScores_denotes denotes) worst (n : Int).toNat
  have hanswer := answerRanking_ok hdigits hn hpairs
  rwa [hnat] at hanswer

/-! ### The command -/

/-- The command for a ranking, as it is registered. -/
def rankingAction (store : StringStore (Host σ)) (services : Services (Host σ)) (worst : Bool) :
    RegisteredAction σ where
  plugin := { plugin store with services }
  action := rankingCommand store worst
  id := ⟨pluginName, .command, if worst then 1 else 0⟩

lemma rankingAction_registered (store : StringStore (Host σ)) (services : Services (Host σ))
    (worst : Bool) :
    rankingAction store services worst ∈
      Plugin.registeredCommands { plugin store with services } := by
  cases worst
  · exact List.mem_cons_self
  · exact List.mem_cons_of_mem _ List.mem_cons_self

/-- The request for a ranking, without the name of the plugin. -/
def request (worst : Bool) (n : Nat) : String := rankingWord worst ++ " " ++ Decimal.intText n

lemma trim_request (worst : Bool) (n : Nat) : trim (request worst n) = request worst n := by
  have htext : (request worst n).toList =
      (rankingWord worst).toList ++ ' ' :: Nat.toDigits 10 n := by
    rw [request, Decimal.intText_natCast]
    simp
  have htrimmed : Trimmed (request worst n).toList := by
    rw [htext]
    refine ⟨fun c hc => ?_, fun c hc => ?_⟩
    · cases worst <;> cases hc <;> decide
    · rw [List.getLast?_append, List.getLast?_cons_of_ne_nil Nat.toDigits_ne_nil,
        List.getLast?_eq_some_getLast Nat.toDigits_ne_nil, Option.some_or] at hc
      cases hc
      exact Decimal.isBlank_of_digit (Decimal.digit_of_mem_toDigits (List.getLast_mem _))
  rw [trim, htrimmed.trimChars_eq, String.ofList_toList]

lemma countDigits?_request (worst : Bool) (n : Nat) :
    countDigits? (rankingWord worst) (request worst n) = some (Nat.toDigits 10 n) := by
  rw [request, Decimal.intText_natCast]
  exact countDigits?_digits Nat.toDigits_ne_nil fun _ => Decimal.digit_of_mem_toDigits

/-- The command sees the request without the name of its plugin. -/
lemma rankingAction_prepare {store : StringStore (Host σ)} {services : Services (Host σ)}
    {worst : Bool} {message : IncomingMessage} {n : Nat}
    (asked : message.normalizedText = pluginName ++ " " ++ request worst n) :
    (rankingAction store services worst).prepare message =
      some { message with normalizedText := request worst n } := by
  have hlead : message.normalizedText.toList =
      (pluginName ++ " ").toList ++ (request worst n).toList := by
    rw [asked, String.toList_append]
  have hname : dropStart? (pluginName ++ " ") message.normalizedText = some (request worst n) := by
    rw [dropStart?, dropLead?_eq_some_iff.mpr hlead, Option.map_some, String.ofList_toList]
  have hnamespaced : (rankingAction store services worst).plugin.namespaced = true := rfl
  have hcommand : (rankingAction store services worst).id.kind = .command := rfl
  have hplugin : (rankingAction store services worst).plugin.name = pluginName := rfl
  unfold RegisteredAction.prepare
  rw [hnamespaced, hcommand, hplugin, hname, Option.map_some, trim_request]
  rfl

lemma rankingAction_evaluate {store : StringStore (Host σ)} {services : Services (Host σ)}
    {worst : Bool} {view : IncomingMessage} {digits : List Char} (h : Host σ)
    (hdigits : countDigits? (rankingWord worst) view.normalizedText = some digits) :
    (((rankingAction store services worst).evaluate view).run h).1 =
      ((answerRanking store worst view).run h).1 := by
  have hmatch : (rankingAction store services worst).action.isMatch view = .ok true := by
    change Except.ok (countDigits? (rankingWord worst) view.normalizedText).isSome = _
    rw [hdigits]
    rfl
  rw [RegisteredAction.evaluate, hmatch]
  rfl

/-! ### Numbers with too many digits -/

lemma answerRanking_refused {store : StringStore (Host σ)} {worst : Bool} {m : IncomingMessage}
    {digits : List Char} {e : Decimal.IntegerError}
    (hdigits : countDigits? (rankingWord worst) m.normalizedText = some digits)
    (hread : Decimal.readInt (String.ofList digits) = .error e) (h : Host σ) :
    ((answerRanking store worst m).run h).1 = .error (numberFault e) := by
  unfold answerRanking
  rw [hdigits]
  dsimp only
  rw [hread]
  rfl

lemma ranking_refused {store : StringStore (Host σ)} {h : Host σ} {thing raw : String}
    {e : Decimal.IntegerError} (scanned : (store.scan.run h).1 = .ok [(thing, raw)])
    (hread : Decimal.readInt raw = .error e) (worst : Bool) (count : Nat) :
    ((ranking store worst count).run h).1 = .error (numberFault e) := by
  have hscores : readScores [(thing, raw)] = .error (numberFault e) := by
    rw [readScores_cons, hread]
  exact ranking_run scanned hscores worst count

namespace Tally

/-- A store that holds these values. -/
def holding (entries : List (String × String)) (distinct : (entries.map Prod.fst).Nodup) :
    Host Unreliable :=
  { world := ⟨{ entries }, distinct, []⟩ }

def asked (text : String) : IncomingMessage :=
  { msgId := ⟨"C1", "1"⟩, originId := ⟨"C1", "1"⟩, userId := some "U1", channel := "C1"
    rawText := text, normalizedText := text }

/-- Four things, two of them with the same score. -/
def scored : Host Unreliable :=
  holding [("carol", "3"), ("bob", "3"), ("alice", "10"), ("dave", "-2")] (by decide)

def ones (count : Nat) : List Char := List.replicate count '1'

lemma digit_of_mem_ones {count : Nat} {c : Char} (h : c ∈ ones count) : isDigit c = true := by
  rw [List.eq_of_mem_replicate h]
  decide

lemma ones_ne_nil {count : Nat} (h : count ≠ 0) : ones count ≠ [] :=
  List.ne_nil_of_length_pos (by rw [ones, List.length_replicate]; omega)

lemma readInt_ones {count : Nat} (h : Decimal.maxDigits < count) :
    Decimal.readInt (String.ofList (ones count)) = .error (.tooLong count) := by
  obtain ⟨n, hn⟩ := Decimal.readInt_digits (fun _ => digit_of_mem_ones)
    (ones_ne_nil (Nat.ne_zero_of_lt h))
  rwa [ones, List.length_replicate, if_pos h] at hn

end Tally

/-! ### Rankings -/

/-- Rankings are right. If a store is scanned, and all its values are read as integers, a ranking
is made of the first things in its strict order, each with the score stored for it. A greater number
adds to the end of the list, and the best and the worst are the same things once all are listed.
Every number that is not written with too many digits is answered with the list, and so is every
command with such a number. -/
theorem rankings_are_right {store : StringStore (Host σ)} {h : Host σ}
    {entries : List (String × String)} (scanned : (store.scan.run h).1 = .ok entries)
    (distinct : (entries.map Prod.fst).Nodup)
    (integers : ∀ e ∈ entries, ∃ n, Decimal.readInt e.2 = .ok n) :
    ∃ scores, Denotes entries scores ∧
      (∀ worst n, ((ranking store worst n).run h).1 = .ok (rank worst n scores) ∧
        Ranked worst n scores (rank worst n scores) ∧
        rank worst n scores <+: rank worst (n + 1) scores) ∧
      (∀ n, entries.length ≤ n → (rank false n scores).Perm (rank true n scores)) ∧
      (∀ worst m digits, countDigits? (rankingWord worst) m.normalizedText = some digits →
        digits.length ≤ Decimal.maxDigits →
        ∃ n : Nat, Decimal.readInt (String.ofList digits) = .ok n ∧
          ((answerRanking store worst m).run h).1 =
            .ok (some { text := listing worst n (rank worst n scores) })) ∧
      ∀ services worst n message, (Nat.toDigits 10 n).length ≤ Decimal.maxDigits →
        message.normalizedText = pluginName ++ " " ++ request worst n →
        let command := rankingAction store services worst
        command ∈ Plugin.registeredCommands { plugin store with services } ∧
          ∃ view, command.prepare message = some view ∧
            ((command.evaluate view).run h).1 =
              .ok (some { text := listing worst n (rank worst n scores) }) := by
  obtain ⟨scores, denotes⟩ := exists_denotes integers
  have hthings : (scores.map Prod.fst).Nodup := by rwa [denotes.things]
  refine ⟨scores, denotes, fun worst n => ?_, fun n hn => ?_, ?_, ?_⟩
  · exact ⟨ranking_run scanned (readScores_denotes denotes) worst n, rank_ranked worst n hthings,
      rank_prefix worst n scores⟩
  · have hcount : scores.length ≤ n := by rwa [← denotes.length_eq]
    exact (rank_perm false hcount).trans (rank_perm true hcount).symm
  · intro worst m digits hdigits hshort
    obtain ⟨hne, hall⟩ := digits_of_countDigits? hdigits
    obtain ⟨n, hn⟩ := Decimal.readInt_digits hall hne
    rw [if_neg (Nat.not_lt.mpr hshort)] at hn
    exact ⟨n, hn, answerRanking_run scanned denotes hdigits hn⟩
  · intro services worst n message hshort asked
    let view := { message with normalizedText := request worst n }
    have hdigits : countDigits? (rankingWord worst) view.normalizedText = _ :=
      countDigits?_request worst n
    have hn : Decimal.readInt (String.ofList (Nat.toDigits 10 n)) = .ok (n : Int) := by
      rw [← Decimal.intText_natCast]
      exact Decimal.readInt_intText hshort
    have hanswer := answerRanking_run scanned denotes hdigits hn
    exact ⟨rankingAction_registered store services worst, view, rankingAction_prepare asked,
      (rankingAction_evaluate h hdigits).trans hanswer⟩

open Tally in
/-- Of equals, the one that comes first by its name is listed. -/
theorem bob_is_ranked_before_carol :
    ((answerRanking Unreliable.operations false (asked "top 2")).run scored).1 =
      .ok (some { text := listing false 2 [("alice", 10), ("bob", 3)] }) := by
  have scanned : (Unreliable.operations.scan.run scored).1 =
      .ok [("carol", "3"), ("bob", "3"), ("alice", "10"), ("dave", "-2")] := rfl
  have integers : ∀ e ∈ [("carol", "3"), ("bob", "3"), ("alice", "10"), ("dave", "-2")],
      ∃ n, Decimal.readInt e.2 = .ok n := by
    simp only [List.forall_mem_cons]
    exact ⟨⟨3, by decide⟩, ⟨3, by decide⟩, ⟨10, by decide⟩, ⟨-2, by decide⟩, nofun⟩
  obtain ⟨scores, denotes, -, -, hanswered, -⟩ :=
    rankings_are_right scanned (by decide) integers
  have hscores : readScores [("carol", "3"), ("bob", "3"), ("alice", "10"), ("dave", "-2")] =
      .ok [("carol", 3), ("bob", 3), ("alice", 10), ("dave", -2)] := by decide +kernel
  rw [readScores_denotes denotes] at hscores
  obtain ⟨n, hn, hanswer⟩ := hanswered false (asked "top 2") ['2'] (by decide) (by decide)
  have htwo : Decimal.readInt (String.ofList ['2']) = .ok 2 := by decide
  rw [htwo] at hn
  obtain rfl : n = 2 := by
    have heq := Except.ok.inj hn
    omega
  have hsorted : [("alice", 10), ("bob", 3), ("carol", 3), ("dave", -2)].Perm scores := by
    rw [Except.ok.inj hscores]
    decide
  rw [hanswer, rank_eq_take false hsorted (by decide)]
  rfl

open Tally in
/-- A request whose number has one digit too many fails and lists nothing, and so does the ranking
of a score with one digit too many. -/
theorem overlong_numbers_are_not_ranked :
    ((answerRanking Unreliable.operations false
        (asked (rankingWord false ++ " " ++ String.ofList (ones 4301)))).run
        (holding [("bob", "3")] (List.nodup_singleton _))).1 =
          .error (numberFault (.tooLong 4301)) ∧
      ((ranking Unreliable.operations false 1).run
        (holding [("bob", String.ofList (ones 4301))] (List.nodup_singleton _))).1 =
          .error (numberFault (.tooLong 4301)) := by
  have hlong : Decimal.maxDigits < 4301 := Nat.lt_succ_self 4300
  have hread := readInt_ones hlong
  have hdigits : countDigits? (rankingWord false)
      (asked (rankingWord false ++ " " ++ String.ofList (ones 4301))).normalizedText =
        some (ones 4301) :=
    countDigits?_digits (ones_ne_nil (Nat.succ_ne_zero 4300)) fun _ => digit_of_mem_ones
  exact ⟨answerRanking_refused hdigits hread _, ranking_refused rfl hread false 1⟩

end Karma

end ChatEngine
