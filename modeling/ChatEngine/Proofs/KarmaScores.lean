import ChatEngine.Proofs.OutboxCalls
import ChatEngine.Proofs.ScoreTables
import Mathlib.Logic.Function.Basic

/-!
# Scores of the karma plugin

The karma plugin keeps its scores in a store whose operations may fail at any time. What answering
one message does to the store is either nothing, or storing the next score of the thing that the
message names (`answerChange_cases`). So after any messages the store holds, for every thing, the
score that was read at first with all the changes that were stored (`answerAll_held`). Scores are
stored in their canonical form only, which is why a store that was empty can always be ranked.

Nothing is assumed of a store but that it keeps what it is given (`StringStore.Faithful`). One in
memory that fails by a plan is such a store (`Unreliable.faithful`).
-/

namespace ChatEngine

variable {σ : Type}

/-- A store that keeps what it is given: `held` says which values the world holds for it. An
operation may fail at any time, and then leaves the values as they are; a key is said to be missing
only if it is. -/
structure StringStore.Faithful (store : StringStore (Host σ))
    (held : σ → String → Option String) : Prop where
  get_keeps : ∀ key h, held ((store.get key).run h).2.world = held h.world
  get_ok : ∀ {key h value}, ((store.get key).run h).1 = .ok value →
    held h.world key = some value
  get_missing : ∀ {key h fault}, ((store.get key).run h).1 = .error fault →
    fault.kind = .missingKey → held h.world key = none
  put_ok : ∀ {key value h}, ((store.put key value).run h).1 = .ok () →
    held ((store.put key value).run h).2.world = Function.update (held h.world) key (some value)
  put_error : ∀ {key value h fault}, ((store.put key value).run h).1 = .error fault →
    held ((store.put key value).run h).2.world = held h.world
  scan_ok : ∀ {h entries}, (store.scan.run h).1 = .ok entries →
    ∀ entry ∈ entries, held h.world entry.1 = some entry.2

namespace Karma

/-! ### The world around the log -/

/-- Whether an effect leaves the world as it is. -/
def Silent {α : Type} (act : Effect (Host σ) α) : Prop := ∀ h, (act.run h).2.world = h.world

namespace Silent

variable {α β : Type}

lemma pure (a : α) : Silent (Pure.pure a : Effect (Host σ) α) := fun _ => rfl

lemma throw (fault : Fault) : Silent (MonadExcept.throw fault : Effect (Host σ) α) := fun _ => rfl

lemma record (level : LogLevel) (event : String) (fields : List (String × Value)) :
    Silent (Effect.lift (Host.record level event fields) : Effect (Host σ) Unit) := fun _ => rfl

lemma bind_world {act : Effect (Host σ) α} {f : α → Effect (Host σ) β} (hf : ∀ a, Silent (f a))
    (h : Host σ) : ((act >>= f).run h).2.world = (act.run h).2.world := by
  rw [Effect.bind_run]
  cases act.run h with
  | mk r t =>
    cases r with
    | ok a => exact hf a t
    | error fault => rfl

lemma bind {act : Effect (Host σ) α} {f : α → Effect (Host σ) β} (hact : Silent act)
    (hf : ∀ a, Silent (f a)) : Silent (act >>= f) :=
  fun h => (bind_world hf h).trans (hact h)

lemma debugf (l : PluginLogger) (fmt : String) (args : List Value) :
    Silent (l.debugf fmt args : Effect (Host σ) Unit) := by
  unfold PluginLogger.debugf PluginLogger.write
  split
  · split
    · exact record _ _ _
    · exact throw _
  · exact pure ()

end Silent

/-! ### Single messages -/

/-- The score that a stored value stands for: none is stored, or no integer, counts as zero. -/
def score (value : Option String) : Int := (value.bind Decimal.parseInt?).getD 0

lemma score_of_readInt {text : String} {n : Int} (h : Decimal.readInt text = .ok n) :
    score (some text) = n := by
  rw [score, Option.bind_some, Decimal.parseInt?, h]
  rfl

variable {store : StringStore (Host σ)} {held : σ → String → Option String}

lemma current_keeps (hs : store.Faithful held) (thing : String) (h : Host σ) :
    held ((current store thing).run h).2.world = held h.world := by
  unfold current
  rw [Silent.bind_world, Effect.lift_run]
  · exact hs.get_keeps thing h
  · intro result
    cases result with
    | error fault =>
      dsimp only
      split
      · exact .pure _
      · exact .throw _
    | ok raw =>
      dsimp only
      split
      · exact .pure _
      · exact .bind (.record _ _ _) fun _ => .pure _

lemma current_ok (hs : store.Faithful held) {thing : String} {h : Host σ} {n : Int}
    (hn : ((current store thing).run h).1 = .ok n) : n = score (held h.world thing) := by
  unfold current at hn
  rw [Effect.bind_run, Effect.lift_run] at hn
  dsimp only [Effect.attempt] at hn
  cases hget : ((store.get thing).run h).1 with
  | error fault =>
    rw [hget] at hn
    dsimp only at hn
    split at hn
    · next hmissing =>
      cases hn
      rw [hs.get_missing hget hmissing]
      rfl
    · cases hn
  | ok raw =>
    rw [hget] at hn
    dsimp only at hn
    rw [hs.get_ok hget, score, Option.bind_some]
    split at hn
    · next hparse =>
      cases hn
      rw [hparse]
      rfl
    · next hparse =>
      cases hn
      rw [hparse]
      rfl

lemma save_ok (hs : store.Faithful held) {thing : String} {n : Int} {h : Host σ}
    (hsave : ((save store thing n).run h).1 = .ok ()) :
    held ((save store thing n).run h).2.world =
      Function.update (held h.world) thing (some (Decimal.intText n)) ∧
    Decimal.readInt (Decimal.intText n) = .ok n := by
  unfold save at hsave ⊢
  cases hwrite : Decimal.writeInt n with
  | error e =>
    rw [hwrite] at hsave
    cases hsave
  | ok text =>
    obtain ⟨rfl, hback⟩ := Decimal.writeInt_eq_ok hwrite
    rw [hwrite] at hsave
    exact ⟨hs.put_ok hsave, hback⟩

lemma save_error (hs : store.Faithful held) {thing : String} {n : Int} {h : Host σ} {fault : Fault}
    (hsave : ((save store thing n).run h).1 = .error fault) :
    held ((save store thing n).run h).2.world = held h.world := by
  unfold save at hsave ⊢
  cases hwrite : Decimal.writeInt n with
  | error e => rfl
  | ok text =>
    rw [hwrite] at hsave
    exact hs.put_error hsave

/-- The change that is stored when a message is answered, if one is. -/
def persisted? (store : StringStore (Host σ)) (m : IncomingMessage) (h : Host σ) :
    Option (String × Change) :=
  match find? m.normalizedText with
  | none => none
  | some (thing, change) =>
    if isSelf thing m.userId then none
    else match (current store thing).run h with
      | (.error _, _) => none
      | (.ok n, h) => match ((save store thing (change.apply n)).run h).1 with
        | .error _ => none
        | .ok _ => some (thing, change)

/-- What is answered about a changed score, if it could be written. -/
def announced (thing : String) (change : Change) :
    Except Decimal.IntegerError String → Effect (Host σ) (Option Answer)
  | .ok text => return some { text := change.announce thing text }
  | .error e => throw (numberFault e)

lemma announced_silent (thing : String) (change : Change)
    (written : Except Decimal.IntegerError String) :
    Silent (announced thing change written : Effect (Host σ) (Option Answer)) := by
  cases written with
  | ok text => exact .pure _
  | error e => exact .throw _

lemma answerChange_world (services : Services (Host σ)) (m : IncomingMessage) (h : Host σ) :
    ((answerChange store services m).run h).2.world =
      match find? m.normalizedText with
      | none => h.world
      | some (thing, change) =>
        if isSelf thing m.userId then h.world
        else match (current store thing).run h with
          | (.error _, t) => t.world
          | (.ok n, t) => ((save store thing (change.apply n)).run t).2.world := by
  unfold answerChange
  cases find? m.normalizedText with
  | none => rfl
  | some found =>
    obtain ⟨thing, change⟩ := found
    dsimp only
    split
    · rfl
    · rw [Effect.bind_run]
      cases (current store thing).run h with
      | mk r t =>
        cases r with
        | error fault => rfl
        | ok n =>
          dsimp only
          rw [Silent.bind_world]
          · rw [Effect.lift_run, Effect.attempt]
          · generalize Decimal.writeInt (change.apply n) = written
            have hsaid := announced_silent (σ := σ) thing change written
            intro saved
            cases saved <;> cases services.logger
            · exact .bind (.record _ _ _) fun _ => hsaid
            · exact .bind (.record _ _ _) fun _ => .bind (.debugf _ _ _) fun _ => hsaid
            · exact hsaid
            · exact .bind (.debugf _ _ _) fun _ => hsaid

/-- What answering a message does to the store: nothing, or it stores the next score of the thing
that the message names, which is not the sender. -/
lemma answerChange_cases (hs : store.Faithful held) (services : Services (Host σ))
    (m : IncomingMessage) (h : Host σ) :
    (persisted? store m h = none ∧
      held ((answerChange store services m).run h).2.world = held h.world) ∨
    ∃ thing change, persisted? store m h = some (thing, change) ∧
      find? m.normalizedText = some (thing, change) ∧ isSelf thing m.userId = false ∧
      held ((answerChange store services m).run h).2.world = Function.update (held h.world) thing
        (some (Decimal.intText (change.apply (score (held h.world thing))))) ∧
      Decimal.readInt (Decimal.intText (change.apply (score (held h.world thing)))) =
        .ok (change.apply (score (held h.world thing))) := by
  rw [answerChange_world]
  unfold persisted?
  cases hfind : find? m.normalizedText with
  | none => exact .inl ⟨rfl, rfl⟩
  | some found =>
    obtain ⟨thing, change⟩ := found
    dsimp only
    cases hself : isSelf thing m.userId with
    | true => exact .inl ⟨rfl, rfl⟩
    | false =>
      have hkeeps := current_keeps hs thing h
      have hscore : ∀ n, ((current store thing).run h).1 = .ok n →
          n = score (held h.world thing) := fun n => current_ok hs
      rw [if_neg Bool.false_ne_true, if_neg Bool.false_ne_true]
      cases hcurrent : (current store thing).run h with
      | mk r t =>
        rw [hcurrent] at hkeeps hscore
        cases r with
        | error fault => exact .inl ⟨rfl, hkeeps⟩
        | ok n =>
          obtain rfl := hscore n rfl
          dsimp only at hkeeps ⊢
          cases hsave : ((save store thing (change.apply (score (held h.world thing)))).run t).1 with
          | error fault => exact .inl ⟨rfl, (save_error hs hsave).trans hkeeps⟩
          | ok _ =>
            obtain ⟨hheld, hback⟩ := save_ok hs hsave
            rw [hkeeps] at hheld
            exact .inr ⟨thing, change, rfl, rfl, hself, hheld, hback⟩

/-! ### Messages in a row -/

/-- Answers messages one after the other and says which changes were stored, in order. -/
def answerAll (store : StringStore (Host σ)) (services : Services (Host σ)) :
    List IncomingMessage → StateM (Host σ) (List (String × Change))
  | [] => return []
  | m :: messages => do
    let stored := persisted? store m (← get)
    let _ ← (answerChange store services m).attempt
    let rest ← answerAll store services messages
    return stored.toList ++ rest

/-- What changes add up to for a thing. -/
def balance (thing : String) (changes : List (String × Change)) : Int :=
  changes.count (thing, .gain) - changes.count (thing, .loss)

lemma balance_cons_self (thing : String) (change : Change) (changes : List (String × Change))
    (n : Int) : n + balance thing ((thing, change) :: changes) =
      change.apply n + balance thing changes := by
  unfold balance
  cases change <;> simp [Change.apply] <;> omega

lemma balance_cons_of_ne {thing other : String} (hne : other ≠ thing) (change : Change)
    (changes : List (String × Change)) :
    balance thing ((other, change) :: changes) = balance thing changes := by
  simp [balance, hne]

lemma balance_of_not_mem {thing : String} {changes : List (String × Change)}
    (h : thing ∉ changes.map Prod.fst) : balance thing changes = 0 := by
  have hcount : ∀ change, changes.count (thing, change) = 0 := fun change =>
    List.count_eq_zero.mpr fun hmem => h (List.mem_map_of_mem hmem)
  rw [balance, hcount, hcount]
  rfl

/-- What a store holds for a thing after changes to it were stored. -/
def settled (thing : String) (changes : List (String × Change)) (value : Option String) :
    Option String :=
  if thing ∈ changes.map Prod.fst then
    some (Decimal.intText (score value + balance thing changes))
  else value

lemma settled_cons_self {thing : String} {change : Change} {changes : List (String × Change)}
    {value : Option String}
    (hback : Decimal.readInt (Decimal.intText (change.apply (score value))) =
      .ok (change.apply (score value))) :
    settled thing changes (some (Decimal.intText (change.apply (score value)))) =
      settled thing ((thing, change) :: changes) value := by
  unfold settled
  rw [if_pos (by simp : thing ∈ ((thing, change) :: changes).map Prod.fst), balance_cons_self]
  by_cases hmem : thing ∈ changes.map Prod.fst
  · rw [if_pos hmem, score_of_readInt hback]
  · rw [if_neg hmem, balance_of_not_mem hmem, Int.add_zero]

lemma settled_cons_of_ne {thing other : String} (hne : other ≠ thing) (change : Change)
    (changes : List (String × Change)) (value : Option String) :
    settled thing ((other, change) :: changes) value = settled thing changes value := by
  have hne' : thing ≠ other := fun h => hne h.symm
  simp only [settled, balance_cons_of_ne hne, List.map_cons, List.mem_cons, hne', false_or]

lemma answerAll_held (hs : store.Faithful held) (services : Services (Host σ))
    (messages : List IncomingMessage) (h : Host σ) (thing : String) :
    held (answerAll store services messages h).2.world thing =
      settled thing (answerAll store services messages h).1 (held h.world thing) := by
  induction messages generalizing h with
  | nil => rfl
  | cons m messages ih =>
    have hrest := ih ((answerChange store services m).run h).2
    change held (answerAll store services messages
      ((answerChange store services m).run h).2).2.world thing =
        settled thing ((persisted? store m h).toList ++ (answerAll store services messages
          ((answerChange store services m).run h).2).1) _
    rw [hrest]
    rcases answerChange_cases hs services m h with
      ⟨hnone, hheld⟩ | ⟨target, change, hsome, -, -, hheld, hback⟩
    · rw [hnone, hheld]
      rfl
    · rw [hsome, hheld]
      by_cases htarget : target = thing
      · subst htarget
        rw [Function.update_self, settled_cons_self hback]
        rfl
      · rw [Function.update_of_ne (fun h => htarget h.symm), ← settled_cons_of_ne htarget]
        rfl

/-! ### Rankings -/

/-- Whether scores are what the entries of a store denote. -/
def Denotes (entries : List (String × String)) (scores : List (String × Int)) : Prop :=
  List.Forall₂ (fun e p => p.1 = e.1 ∧ Decimal.readInt e.2 = .ok p.2) entries scores

lemma readScores_cons (thing raw : String) (entries : List (String × String)) :
    readScores ((thing, raw) :: entries) = match Decimal.readInt raw with
      | .error e => .error (numberFault e)
      | .ok n => (readScores entries).map ((thing, n) :: ·) := by
  unfold readScores
  rw [List.mapM_cons]
  generalize (entries.mapM _ : Except Fault (List (String × Int))) = rest
  dsimp only
  cases Decimal.readInt raw with
  | error e => rfl
  | ok n => cases rest <;> rfl

lemma readScores_denotes {entries : List (String × String)} {scores : List (String × Int)}
    (h : Denotes entries scores) : readScores entries = .ok scores := by
  induction h with
  | nil => rfl
  | @cons e p entries scores hfirst hrest ih =>
    obtain ⟨thing, raw⟩ := e
    obtain ⟨rfl, hread⟩ := hfirst
    rw [readScores_cons, hread, ih]
    rfl

lemma denotes_of_readScores {entries : List (String × String)} {scores : List (String × Int)}
    (h : readScores entries = .ok scores) : Denotes entries scores := by
  induction entries generalizing scores with
  | nil =>
    cases h
    exact .nil
  | cons e entries ih =>
    obtain ⟨thing, raw⟩ := e
    rw [readScores_cons] at h
    cases hread : Decimal.readInt raw with
    | error cause =>
      rw [hread] at h
      cases h
    | ok n =>
      rw [hread] at h
      cases hrest : readScores entries with
      | error fault =>
        rw [hrest] at h
        cases h
      | ok rest =>
        rw [hrest] at h
        cases h
        exact .cons ⟨rfl, hread⟩ (ih hrest)

lemma Denotes.short {entries : List (String × String)} {scores : List (String × Int)}
    (h : Denotes entries scores) : ∀ p ∈ scores, Decimal.Short p.2 := by
  induction h with
  | nil => exact nofun
  | cons hfirst _ ih => exact List.forall_mem_cons.mpr ⟨Decimal.short_of_readInt hfirst.2, ih⟩

lemma exists_denotes {entries : List (String × String)}
    (hread : ∀ e ∈ entries, ∃ n, Decimal.readInt e.2 = .ok n) :
    ∃ scores, Denotes entries scores := by
  induction entries with
  | nil => exact ⟨[], .nil⟩
  | cons e entries ih =>
    obtain ⟨⟨n, hn⟩, hrest⟩ := List.forall_mem_cons.mp hread
    obtain ⟨scores, hscores⟩ := ih hrest
    exact ⟨(e.1, n) :: scores, .cons ⟨rfl, hn⟩ hscores⟩

/-- Whether a stored value is the canonical text of an integer, and is read as that integer. -/
def Canonical (value : String) : Prop :=
  ∃ n, value = Decimal.intText n ∧ Decimal.readInt value = .ok n

lemma answerChange_canonical (hs : store.Faithful held) (services : Services (Host σ))
    (m : IncomingMessage) {h : Host σ}
    (hc : ∀ thing value, held h.world thing = some value → Canonical value) :
    ∀ thing value, held ((answerChange store services m).run h).2.world thing = some value →
      Canonical value := by
  intro thing value hvalue
  rcases answerChange_cases hs services m h with
    ⟨-, hheld⟩ | ⟨target, change, -, -, -, hheld, hback⟩
  · exact hc thing value (hheld ▸ hvalue)
  · rw [hheld] at hvalue
    by_cases htarget : thing = target
    · rw [htarget, Function.update_self] at hvalue
      cases hvalue
      exact ⟨_, rfl, hback⟩
    · rw [Function.update_of_ne htarget] at hvalue
      exact hc thing value hvalue

lemma answerAll_canonical (hs : store.Faithful held) (services : Services (Host σ))
    (messages : List IncomingMessage) {h : Host σ}
    (hc : ∀ thing value, held h.world thing = some value → Canonical value) :
    ∀ thing value, held (answerAll store services messages h).2.world thing = some value →
      Canonical value := by
  induction messages generalizing h with
  | nil => exact hc
  | cons m messages ih => exact ih (answerChange_canonical hs services m hc)

/-- A ranking that can scan the store is that of the scores, if these can be read. -/
lemma ranking_run {store : StringStore (Host σ)} {h : Host σ} {entries : List (String × String)}
    {scores : Except Fault (List (String × Int))} (hscan : (store.scan.run h).1 = .ok entries)
    (hscores : readScores entries = scores) (worst : Bool) (count : Nat) :
    ((ranking store worst count).run h).1 = scores.map (rank worst count) := by
  unfold ranking
  rw [Effect.bind_run]
  cases hrun : store.scan.run h with
  | mk r t =>
    rw [hrun] at hscan
    cases hscan
    dsimp only
    rw [hscores]
    cases scores <;> rfl

/-- A store of canonical values is ranked, unless it cannot be scanned. -/
lemma ranking_ok (hs : store.Faithful held) {h : Host σ}
    (hc : ∀ thing value, held h.world thing = some value → Canonical value)
    {entries : List (String × String)} (hscan : (store.scan.run h).1 = .ok entries)
    (worst : Bool) (count : Nat) :
    ∃ pairs, ((ranking store worst count).run h).1 = .ok pairs := by
  have hread : ∀ entry ∈ entries, ∃ n, Decimal.readInt entry.2 = .ok n := by
    intro entry hentry
    obtain ⟨n, -, hn⟩ := hc _ _ (hs.scan_ok hscan entry hentry)
    exact ⟨n, hn⟩
  obtain ⟨scores, denotes⟩ := exists_denotes hread
  exact ⟨_, ranking_run hscan (readScores_denotes denotes) worst count⟩

/-- The text that lists a ranking. -/
def listing (worst : Bool) (count : Nat) (pairs : List (String × Int)) : String :=
  (if worst then "Here are the " ++ Decimal.intText count ++ " worst things: \n"
    else "Here are the top " ++ Decimal.intText count ++ " things: \n") ++ table pairs

/-- All that is ranked was read, so it can be written. -/
lemma ranking_short {worst : Bool} {count : Nat} {h : Host σ} {pairs : List (String × Int)}
    (hpairs : ((ranking store worst count).run h).1 = .ok pairs) :
    ∀ p ∈ pairs, Decimal.Short p.2 := by
  unfold ranking at hpairs
  rw [Effect.bind_run] at hpairs
  cases hscan : store.scan.run h with
  | mk r t =>
    rw [hscan] at hpairs
    cases r with
    | error fault => cases hpairs
    | ok entries =>
      dsimp only at hpairs
      cases hscores : readScores entries with
      | error fault =>
        rw [hscores] at hpairs
        cases hpairs
      | ok scores =>
        rw [hscores] at hpairs
        cases hpairs
        have denotes := denotes_of_readScores hscores
        intro p hp
        exact denotes.short p (List.mem_mergeSort.mp (List.mem_of_mem_take hp))

lemma answerRanking_ok {worst : Bool} {m : IncomingMessage} {digits : List Char} {n : Int}
    {h : Host σ} {pairs : List (String × Int)}
    (hdigits : countDigits? (rankingWord worst) m.normalizedText = some digits)
    (hn : Decimal.readInt (String.ofList digits) = .ok n)
    (hpairs : ((ranking store worst n.toNat).run h).1 = .ok pairs) :
    ((answerRanking store worst m).run h).1 =
      .ok (some { text := listing worst n.toNat pairs }) := by
  unfold answerRanking
  rw [hdigits]
  dsimp only
  rw [hn]
  dsimp only
  rw [pure_bind, Effect.bind_run, Effect.lift_run, Effect.attempt]
  dsimp only
  rw [hpairs]
  dsimp only
  rw [formatList_short (ranking_short hpairs)]
  rfl

/-! ### Accounts -/

lemma ne_of_isSelf {thing user : String} {userId : Option String}
    (hself : isSelf thing userId = false) (huser : userId = some user) :
    thing ≠ user ∧ thing ≠ "<@" ++ user ++ ">" := by
  subst huser
  unfold isSelf at hself
  simpa using hself

/-- The scores add up. Whatever a store held, and whichever of its operations fail, it holds for each
thing afterwards what it held if no change of the thing was stored, and otherwise the canonical text
of the old score with all stored gains and losses. A message changes at most what is held for the
thing it names, and never for its sender. A store that was empty holds canonical texts only, so it
is ranked whenever it can be scanned. -/
theorem scores_add_up (hs : store.Faithful held) (services : Services (Host σ))
    (messages : List IncomingMessage) (h : Host σ) :
    let (changes, after) := answerAll store services messages h
    (∀ thing, held after.world thing = settled thing changes (held h.world thing)) ∧
    (∀ (m : IncomingMessage) (now : Host σ) (thing : String),
      held ((answerChange store services m).run now).2.world thing ≠ held now.world thing →
        (∃ change, find? m.normalizedText = some (thing, change)) ∧
        ∀ user, m.userId = some user → thing ≠ user ∧ thing ≠ "<@" ++ user ++ ">") ∧
    ((∀ thing, held h.world thing = none) →
      (∀ thing value, held after.world thing = some value → Canonical value) ∧
      ∀ entries, (store.scan.run after).1 = .ok entries → ∀ worst,
        (∀ count, ∃ pairs, ((ranking store worst count).run after).1 = .ok pairs) ∧
        ∀ m digits n, countDigits? (rankingWord worst) m.normalizedText = some digits →
          Decimal.readInt (String.ofList digits) = .ok n →
          ∃ pairs, ((answerRanking store worst m).run after).1 =
            .ok (some { text := listing worst n.toNat pairs })) := by
  refine ⟨answerAll_held hs services messages h, ?_, ?_⟩
  · intro m now thing hchanged
    rcases answerChange_cases hs services m now with
      ⟨-, hheld⟩ | ⟨target, change, -, hfind, hself, hheld, -⟩
    · exact absurd (congrFun hheld thing) hchanged
    · by_cases htarget : thing = target
      · subst htarget
        exact ⟨⟨change, hfind⟩, fun user huser => ne_of_isSelf hself huser⟩
      · rw [hheld, Function.update_of_ne htarget] at hchanged
        exact absurd rfl hchanged
  · intro hempty
    have hcanonical := answerAll_canonical hs services messages (h := h) fun thing value hvalue => by
      rw [hempty thing] at hvalue
      cases hvalue
    refine ⟨hcanonical, fun entries hscan worst => ⟨ranking_ok hs hcanonical hscan worst, ?_⟩⟩
    intro m digits n hdigits hn
    obtain ⟨pairs, hpairs⟩ := ranking_ok hs hcanonical hscan worst n.toNat
    exact ⟨pairs, answerRanking_ok hdigits hn hpairs⟩

/-! ### Stores in memory that fail at times -/

end Karma

/-- A store in memory, with a plan of which of its next operations fail. -/
structure Unreliable where
  store : MemoryStore
  distinct : (store.entries.map Prod.fst).Nodup
  plan : List Bool

namespace Unreliable

/-- The value held for a key. -/
def held (w : Unreliable) (key : String) : Option String := Entries.get? key w.store.entries

def fails (w : Unreliable) : Bool := w.plan.headD false

def next (w : Unreliable) : Unreliable := { w with plan := w.plan.tail }

def outage : Fault := .runtime "store is unreachable"

def put (w : Unreliable) (key value : String) : Except Fault Unit × Unreliable :=
  if w.fails then (.error outage, w.next)
  else match w.store.checkOpen with
    | .ok _ => (.ok (),
      { store := { w.store with entries := Entries.put key value w.store.entries }
        distinct := Entries.nodup_keys_put key value w.distinct
        plan := w.plan.tail })
    | .error fault => (.error fault, w.next)

/-- The operations of the store, each of which takes one entry of the plan. -/
def operations : StringStore (Host Unreliable) where
  get key := Host.outside <| Effect.of fun w =>
    (if w.fails then .error outage else w.store.get key, w.next)
  put key value := Host.outside <| Effect.of fun w => w.put key value
  scan := Host.outside <| Effect.of fun w =>
    (if w.fails then .error outage else w.store.scan, w.next)

lemma get_eq_ok {w : Unreliable} {key value : String}
    (h : (if w.fails then .error outage else w.store.get key) = Except.ok value) :
    w.held key = some value := by
  unfold MemoryStore.get MemoryStore.checkOpen at h
  unfold held
  split at h
  · cases h
  · split at h
    · cases h
    · cases hget : Entries.get? key w.store.entries with
      | none => rw [hget] at h; cases h
      | some v => rw [hget] at h; cases h; rfl

lemma get_eq_missing {w : Unreliable} {key : String} {fault : Fault}
    (h : (if w.fails then .error outage else w.store.get key) = Except.error fault)
    (hmissing : fault.kind = .missingKey) : w.held key = none := by
  unfold MemoryStore.get MemoryStore.checkOpen at h
  unfold held
  split at h
  · cases h; cases hmissing
  · split at h
    · cases h; cases hmissing
    · cases hget : Entries.get? key w.store.entries with
      | none => rfl
      | some v => rw [hget] at h; cases h

lemma put_eq_ok {w : Unreliable} {key value : String} (h : (w.put key value).1 = .ok ()) :
    (w.put key value).2.held = Function.update w.held key (some value) := by
  unfold put at h ⊢
  split at h
  · cases h
  · next hfails =>
    rw [if_neg hfails]
    split at h
    · funext k
      rw [Function.update_apply]
      exact Entries.get?_put key k value _
    · cases h

lemma put_eq_error {w : Unreliable} {key value : String} {fault : Fault}
    (h : (w.put key value).1 = .error fault) : (w.put key value).2.held = w.held := by
  unfold put at h ⊢
  split
  · rfl
  · next hfails =>
    rw [if_neg hfails] at h
    split
    · next hopen =>
      rw [hopen] at h
      cases h
    · rfl

lemma scan_eq_ok {w : Unreliable} {entries : List (String × String)}
    (h : (if w.fails then .error outage else w.store.scan) = Except.ok entries) :
    entries = w.store.entries := by
  unfold MemoryStore.scan MemoryStore.checkOpen at h
  split at h
  · cases h
  · split at h
    · cases h
    · cases h
      rfl

lemma faithful : operations.Faithful held where
  get_keeps _ _ := rfl
  get_ok := get_eq_ok
  get_missing := get_eq_missing
  put_ok := put_eq_ok
  put_error := put_eq_error
  scan_ok hok entry hentry := by
    rw [scan_eq_ok hok] at hentry
    exact Entries.get?_of_mem (Unreliable.distinct _) hentry

end Unreliable

namespace Karma

/-- With a store that fails when the second message is stored, and a sender who means herself. -/
theorem scores_add_up_after_outage :
    let h : Host Unreliable :=
      { world := ⟨{ entries := [("lean", "41")] }, by decide, [false, false, false, true]⟩ }
    let said (user text : String) : IncomingMessage :=
      { msgId := ⟨"C1", "1"⟩, originId := ⟨"C1", "1"⟩, userId := some user, channel := "C1"
        rawText := text, normalizedText := text }
    let (changes, after) := answerAll Unreliable.operations {}
      [said "U1" "lean++", said "U1" "lean++", said "U2" "<@U2>++", said "U3" "<@U2>--"] h
    changes = [("lean", .gain), ("<@U2>", .loss)] ∧ after.world.held "lean" = some "42" := by
  intro h said
  have hsettled := (scores_add_up Unreliable.faithful {}
    [said "U1" "lean++", said "U1" "lean++", said "U2" "<@U2>++", said "U3" "<@U2>--"] h).1 "lean"
  exact ⟨by decide +kernel, hsettled.trans (by decide +kernel)⟩

end Karma

end ChatEngine
