import ChatEngine.Proofs.KarmaRankings

/-!
# Scores that cannot be read

Counting and ranking both read the values of a store. Counting takes a value that is no integer for
zero (`Counts`), while one such value, whichever thing it is stored for, leaves nothing to rank
(`readScores_unreadable`). So both read a store alike exactly while all its values are integers.
-/

namespace ChatEngine.Karma

variable {σ : Type} {store : StringStore (Host σ)} {held : σ → String → Option String}

/-! ### Counting -/

/-- Where counting starts for a thing: at the score that is read if there is a value, and that the
next change which is stored is made to. -/
structure Counts (store : StringStore (Host σ)) (held : σ → String → Option String) (h : Host σ)
    (thing : String) (n : Int) : Prop where
  starts : ∀ {raw}, ((store.get thing).run h).1 = .ok raw →
    ((current store thing).run h).1 = .ok n
  changes : ∀ services {m : IncomingMessage} {change}, persisted? store m h = some (thing, change) →
    held ((answerChange store services m).run h).2.world thing =
      some (Decimal.intText (change.apply n))

lemma current_of_get {thing raw : String} {h : Host σ}
    (hget : ((store.get thing).run h).1 = .ok raw) :
    ((current store thing).run h).1 = .ok (score (some raw)) := by
  unfold current
  rw [Effect.bind_run, Effect.lift_run, Effect.attempt]
  dsimp only
  rw [hget, score, Option.bind_some]
  dsimp only
  cases Decimal.parseInt? raw <;> rfl

lemma counts_of_held (hs : store.Faithful held) {h : Host σ} {thing raw : String}
    (hheld : held h.world thing = some raw) : Counts store held h thing (score (some raw)) where
  starts {value} hget := by
    have hvalue := hs.get_ok hget
    rw [hheld] at hvalue
    cases hvalue
    exact current_of_get hget
  changes services {m change} hpersisted := by
    rcases answerChange_cases hs services m h with
      ⟨hnone, -⟩ | ⟨target, change', hsome, -, -, hafter, -⟩
    · rw [hpersisted] at hnone
      cases hnone
    · rw [hpersisted] at hsome
      cases hsome
      rw [hafter, Function.update_self, hheld]

/-! ### Ranking -/

/-- The things of a store's content, with the scores that counting starts from. -/
def counted (entries : List (String × String)) : List (String × Int) :=
  entries.map fun entry => (entry.1, score (some entry.2))

lemma Denotes.eq_counted {entries : List (String × String)} {scores : List (String × Int)}
    (h : Denotes entries scores) : scores = counted entries := by
  induction h with
  | nil => rfl
  | @cons entry p entries scores hfirst _ ih =>
    have hp : p = (entry.1, score (some entry.2)) :=
      Prod.ext hfirst.1 (score_of_readInt hfirst.2).symm
    rw [hp, ih]
    rfl

lemma score_of_unreadable {raw : String} {e : Decimal.IntegerError}
    (h : Decimal.readInt raw = .error e) : score (some raw) = 0 := by
  rw [score, Option.bind_some, Decimal.parseInt?, h]
  rfl

/-- A score that cannot be read leaves the scores before it and after it unread. -/
lemma readScores_unreadable {earlier later : List (String × String)} {thing raw : String}
    {e : Decimal.IntegerError} (readable : ∀ entry ∈ earlier, ∃ n, Decimal.readInt entry.2 = .ok n)
    (unreadable : Decimal.readInt raw = .error e) :
    readScores (earlier ++ (thing, raw) :: later) = .error (numberFault e) := by
  induction earlier with
  | nil => rw [List.nil_append, readScores_cons, unreadable]
  | cons entry earlier ih =>
    obtain ⟨⟨n, hn⟩, hearlier⟩ := List.forall_mem_cons.mp readable
    rw [List.cons_append, readScores_cons, hn, ih hearlier]
    rfl

/-- What is said when there is no ranking. -/
def apology (worst : Bool) (n : Nat) (fault : Fault) : String :=
  "Sorry, I couldn't get the " ++ rankingWord worst ++ " [" ++ Decimal.intText n
    ++ "] things for you. If you must know, thing happened: " ++ fault.text

lemma answerRanking_failed {worst : Bool} {m : IncomingMessage} {digits : List Char} {n : Nat}
    {h : Host σ} {fault : Fault}
    (hdigits : countDigits? (rankingWord worst) m.normalizedText = some digits)
    (hn : Decimal.readInt (String.ofList digits) = .ok (n : Int))
    (hfault : ((ranking store worst n).run h).1 = .error fault) :
    ((answerRanking store worst m).run h).1 = .ok (some { text := apology worst n fault }) := by
  unfold answerRanking
  rw [hdigits]
  dsimp only
  rw [hn]
  dsimp only
  rw [pure_bind, Effect.bind_run, Effect.lift_run, Effect.attempt, Int.toNat_natCast]
  dsimp only
  rw [hfault]
  rfl

/-! ### Reading a store alike -/

/-- Ranking reads a store as counting does unless there is a value that is no integer. Counting
starts at zero for a thing with such a value and at the stored integer for all others. If all values
are integers, a ranking of all things lists each with the score that counting starts at. The first
value that is none, however, leaves every ranking with nothing to list but its fault. -/
theorem rankings_match_counting_unless_unreadable (hs : store.Faithful held) {h : Host σ}
    {entries : List (String × String)} (scanned : (store.scan.run h).1 = .ok entries) :
    (∀ entry ∈ entries, Counts store held h entry.1 (score (some entry.2))) ∧
      ((∀ entry ∈ entries, ∃ n, Decimal.readInt entry.2 = .ok n) →
        ∀ worst n, entries.length ≤ n → ∃ pairs, pairs.Perm (counted entries) ∧
          (∀ p ∈ pairs, Counts store held h p.1 p.2) ∧
          ((ranking store worst n).run h).1 = .ok pairs ∧
          ∀ m digits, countDigits? (rankingWord worst) m.normalizedText = some digits →
            Decimal.readInt (String.ofList digits) = .ok (n : Int) →
            ((answerRanking store worst m).run h).1 =
              .ok (some { text := listing worst n pairs })) ∧
      ∀ earlier thing raw later e, entries = earlier ++ (thing, raw) :: later →
        (∀ entry ∈ earlier, ∃ n, Decimal.readInt entry.2 = .ok n) →
        Decimal.readInt raw = .error e →
        score (some raw) = 0 ∧ ∀ worst n,
          ((ranking store worst n).run h).1 = .error (numberFault e) ∧
          ∀ m digits, countDigits? (rankingWord worst) m.normalizedText = some digits →
            Decimal.readInt (String.ofList digits) = .ok (n : Int) →
            ((answerRanking store worst m).run h).1 =
              .ok (some { text := apology worst n (numberFault e) }) := by
  have counts : ∀ entry ∈ entries, Counts store held h entry.1 (score (some entry.2)) :=
    fun entry hentry => counts_of_held hs (hs.scan_ok scanned entry hentry)
  refine ⟨counts, fun readable worst n hn => ?_, fun earlier thing raw later e hentries readable
    unreadable => ⟨score_of_unreadable unreadable, fun worst n => ?_⟩⟩
  · obtain ⟨scores, denotes⟩ := exists_denotes readable
    obtain rfl := denotes.eq_counted
    have hperm : (rank worst n (counted entries)).Perm (counted entries) :=
      rank_perm worst (by rwa [← denotes.length_eq])
    refine ⟨rank worst n (counted entries), hperm, fun p hp => ?_,
      ranking_run scanned (readScores_denotes denotes) worst n,
      fun m digits hdigits hread => answerRanking_run scanned denotes hdigits hread⟩
    obtain ⟨entry, hentry, rfl⟩ := List.mem_map.mp (hperm.mem_iff.mp hp)
    exact counts entry hentry
  · subst hentries
    have hfault : ((ranking store worst n).run h).1 = .error (numberFault e) :=
      ranking_run scanned (readScores_unreadable readable unreadable) worst n
    exact ⟨hfault, fun m digits hdigits hread => answerRanking_failed hdigits hread hfault⟩

namespace Tally

/-- A store with a score that cannot be read. -/
def corrupted : Host Unreliable := holding [("al", "2"), ("bob", "lots")] (by decide)

lemma corrupted_scanned :
    (Unreliable.operations.scan.run corrupted).1 = .ok [("al", "2"), ("bob", "lots")] := rfl

lemma lots_unreadable : Decimal.readInt "lots" = .error (.malformed "lots") := by decide

lemma two_readable : ∀ entry ∈ [("al", "2")], ∃ n, Decimal.readInt entry.2 = .ok n :=
  List.forall_mem_singleton.mpr ⟨2, by decide⟩

end Tally

open Tally in
/-- The one who has a score of 2 is not listed because of the other, who counts from zero. -/
theorem top_five_is_refused_for_bob :
    Counts Unreliable.operations Unreliable.held corrupted "bob" 0 ∧
      ((answerRanking Unreliable.operations false (asked "top 5")).run corrupted).1 =
        .ok (some { text := apology false 5 (numberFault (.malformed "lots")) }) := by
  obtain ⟨counts, -, refused⟩ :=
    rankings_match_counting_unless_unreadable Unreliable.faithful corrupted_scanned
  obtain ⟨hscore, hranked⟩ := refused _ "bob" "lots" [] _ rfl two_readable lots_unreadable
  have hbob := counts ("bob", "lots") (by decide)
  rw [hscore] at hbob
  exact ⟨hbob, (hranked false 5).2 (asked "top 5") ['5'] (by decide) (by decide)⟩

open Tally in
/-- A store is scanned and counting starts at zero for bob, but no ranking lists him. -/
theorem bob_counts_but_is_not_ranked :
    (Unreliable.operations.scan.run corrupted).1 = .ok [("al", "2"), ("bob", "lots")] ∧
      ((current Unreliable.operations "bob").run corrupted).1 = .ok 0 ∧
      ∀ worst pairs, ((ranking Unreliable.operations worst 2).run corrupted).1 ≠ .ok pairs := by
  have hscores : readScores [("al", "2"), ("bob", "lots")] =
      .error (numberFault (.malformed "lots")) :=
    readScores_unreadable two_readable lots_unreadable
  refine ⟨corrupted_scanned, ?_, fun worst pairs hpairs => ?_⟩
  · have hget : ((Unreliable.operations.get "bob").run corrupted).1 = .ok "lots" := rfl
    rw [current_of_get hget, score_of_unreadable lots_unreadable]
  · rw [ranking_run corrupted_scanned hscores worst 2] at hpairs
    cases hpairs

end ChatEngine.Karma
