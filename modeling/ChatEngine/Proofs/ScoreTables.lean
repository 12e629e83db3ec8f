import ChatEngine.Bundled.Karma
import ChatEngine.Proofs.CanonicalIntegers
import ChatEngine.Proofs.TextLines
import Mathlib.Data.List.Forall2

/-!
# Tables of scores

A table of scores has a row for each thing. The scores stand in a column that is wide enough for all
of them, so all things start in the same place, with a gap before them (`Shows`). A table is read
back row by row: a score ends at the first space, the scores give the width of their column, and the
thing is what stands after it, whatever it starts with. There is a table of all scores that have a
text (`formatList_short`), and of no others (`formatList_long`).
-/

namespace ChatEngine.Karma
open Text

variable {pairs : List (String × Int)}

/-! ### Rows -/

/-- Whether a row shows a thing and its score: the score, then spaces up to the column of things,
at least one of them, and then the thing. -/
def Shows (column : Nat) (p : String × Int) (row : String) : Prop :=
  ∃ gap, 0 < gap ∧ (Decimal.intText p.2).length + gap = column ∧
    row = Decimal.intText p.2 ++ String.ofList (List.replicate gap ' ') ++ p.1

/-- The width of the column of some scores. -/
def columnWidth (scores : List Int) : Nat :=
  scores.foldl (fun width n => max width ((Decimal.intText n).length + 1)) 5

/-- The row of a thing and its score. -/
def row (width : Nat) (p : String × Int) : String :=
  let score := Decimal.intText p.2
  score ++ String.ofList (List.replicate (width - score.length) ' ') ++ p.1

/-- The table of things with scores that have a text. -/
def table (pairs : List (String × Int)) : String :=
  layOut (pairs.map fun p => (p.1, Decimal.intText p.2))

lemma table_eq (pairs : List (String × Int)) :
    table pairs = "```" ++
      join "" ((pairs.map (row (columnWidth (pairs.map Prod.snd)))).map (· ++ "\n")) ++
        "```\n" := by
  unfold table layOut columnWidth
  dsimp only
  rw [List.foldl_map, List.foldl_map, List.map_map, List.map_map]
  rfl

lemma formatList_short (short : ∀ p ∈ pairs, Decimal.Short p.2) :
    formatList pairs = .ok (table pairs) := by
  have hwritten : (pairs.mapM fun p => (Decimal.writeInt p.2).map fun score => (p.1, score)) =
      .ok (pairs.map fun p => (p.1, Decimal.intText p.2)) := by
    induction pairs with
    | nil => rfl
    | cons p pairs ih =>
      obtain ⟨hp, hpairs⟩ := List.forall_mem_cons.mp short
      rw [List.mapM_cons, Decimal.writeInt_short hp, ih hpairs]
      rfl
  rw [formatList, hwritten]
  rfl

lemma formatList_long {p : String × Int} (hp : p ∈ pairs) (long : ¬Decimal.Short p.2) :
    formatList pairs = .error .tooLarge := by
  have hfailed : (pairs.mapM fun p => (Decimal.writeInt p.2).map fun score => (p.1, score)) =
      .error .tooLarge := by
    induction pairs with
    | nil => cases hp
    | cons q pairs ih =>
      by_cases hq : Decimal.Short q.2
      · have hmem : p ∈ pairs := (List.mem_cons.mp hp).resolve_left fun heq => long (heq ▸ hq)
        rw [List.mapM_cons, Decimal.writeInt_short hq, ih hmem]
        rfl
      · rw [List.mapM_cons, Decimal.writeInt_long hq]
        rfl
  rw [formatList, hfailed]
  rfl

lemma le_foldl_max {f : Int → Nat} (scores : List Int) (width : Nat) :
    width ≤ scores.foldl (fun width n => max width (f n)) width ∧
      ∀ n ∈ scores, f n ≤ scores.foldl (fun width n => max width (f n)) width := by
  induction scores generalizing width with
  | nil => simp
  | cons n scores ih =>
    obtain ⟨hwidth, hscores⟩ := ih (max width (f n))
    rw [List.foldl_cons, List.forall_mem_cons]
    exact ⟨by omega, by omega, hscores⟩

lemma length_lt_columnWidth {scores : List Int} {n : Int} (h : n ∈ scores) :
    (Decimal.intText n).length < columnWidth scores :=
  (le_foldl_max (f := fun n => (Decimal.intText n).length + 1) scores 5).2 n h

lemma shows_row {width : Nat} {p : String × Int} (wide : (Decimal.intText p.2).length < width) :
    Shows width p (row width p) :=
  ⟨width - (Decimal.intText p.2).length, by omega, by omega, rfl⟩

section
variable {column : Nat} {p : String × Int} {row : String}

lemma Shows.oneLine (h : Shows column p row) (thing : OneLine p.1) : OneLine row := by
  obtain ⟨gap, -, -, rfl⟩ := h
  have hscore : OneLine (Decimal.intText p.2) := fun hmem =>
    Decimal.ne_of_mem_intText hmem (by decide) (by decide) rfl
  have hgap : OneLine (String.ofList (List.replicate gap ' ')) := by
    unfold OneLine
    simp
  exact (hscore.append hgap).append thing

/-- The score ends at the first space. -/
lemma Shows.takeWhile_eq (h : Shows column p row) :
    row.toList.takeWhile (· ≠ ' ') = (Decimal.intText p.2).toList := by
  obtain ⟨gap, hgap, -, rfl⟩ := h
  obtain ⟨gap, rfl⟩ := Nat.exists_eq_succ_of_ne_zero hgap.ne'
  have hscore : ∀ c ∈ (Decimal.intText p.2).toList, decide (c ≠ ' ') = true := fun c hc =>
    decide_eq_true (Decimal.ne_of_mem_intText hc (by decide) (by decide))
  rw [String.toList_append, String.toList_append, String.toList_ofList, List.append_assoc,
    List.takeWhile_append_of_pos hscore, List.replicate_succ]
  simp

lemma Shows.drop_eq (h : Shows column p row) : Text.drop column row = p.1 := by
  obtain ⟨gap, -, rfl, rfl⟩ := h
  have hlength : (Decimal.intText p.2 ++ String.ofList (List.replicate gap ' ')).toList.length =
      (Decimal.intText p.2).length + gap := by
    simp [String.length_toList]
  rw [Text.drop, String.toList_append, ← hlength, List.drop_left, String.ofList_toList]

end

/-! ### Reading tables -/

/-- The rows between the fences of a table. -/
def tableRows? (text : String) : Option (List String) := do
  let inner ← dropStart? "```" text
  let body ← dropTail? "```\n" inner
  return (split '\n' body).dropLast

/-- The integer that a sign and digits denote, however many there are. -/
def readScore? (cs : List Char) : Option Int :=
  (Decimal.readNat? (Decimal.splitSign cs).2).map fun (n : Nat) =>
    if (Decimal.splitSign cs).1 then -(n : Int) else n

/-- The things in a table with their scores. -/
def readTable? (text : String) : Option (List (String × Int)) := do
  let rows ← tableRows? text
  let scores ← rows.mapM fun row => readScore? (row.toList.takeWhile (· ≠ ' '))
  return (rows.map (Text.drop (columnWidth scores))).zip scores

lemma readScore?_intText (n : Int) : readScore? (Decimal.intText n).toList = some n := by
  rw [readScore?, Decimal.splitSign_intText, Decimal.readNat?_toDigits, Option.map_some]
  congr 1
  by_cases hn : n < 0
  · rw [if_pos (decide_eq_true hn)]
    omega
  · rw [if_neg (by simpa using hn)]
    omega

lemma tableRows?_fenced {rows : List String} (h : ∀ row ∈ rows, OneLine row) :
    tableRows? ("```" ++ join "" (rows.map (· ++ "\n")) ++ "```\n") = some rows := by
  have hstart : dropStart? "```" ("```" ++ join "" (rows.map (· ++ "\n")) ++ "```\n") =
      some (join "" (rows.map (· ++ "\n")) ++ "```\n") := by
    rw [dropStart?, String.append_assoc, String.toList_append, dropLead?_eq_some_iff.mpr rfl,
      Option.map_some, String.ofList_toList]
  have htail : dropTail? "```\n" (join "" (rows.map (· ++ "\n")) ++ "```\n") =
      some (join "" (rows.map (· ++ "\n"))) := by
    rw [dropTail?, String.toList_append, List.reverse_append, dropLead?_eq_some_iff.mpr rfl,
      Option.map_some, List.reverse_reverse, String.ofList_toList]
  rw [tableRows?, hstart, Option.bind_eq_bind, Option.bind_some, htail, Option.bind_some,
    split_ended h, List.dropLast_concat]
  rfl

lemma mapM_readScore? {column : Nat} {pairs : List (String × Int)} {rows : List String}
    (h : List.Forall₂ (Shows column) pairs rows) :
    rows.mapM (fun row => readScore? (row.toList.takeWhile (· ≠ ' '))) =
      some (pairs.map Prod.snd) := by
  induction h with
  | nil => rfl
  | cons hrow _ ih =>
    rw [List.mapM_cons, hrow.takeWhile_eq, readScore?_intText, ih]
    rfl

lemma zip_drop_eq {column : Nat} {pairs : List (String × Int)} {rows : List String}
    (h : List.Forall₂ (Shows column) pairs rows) :
    (rows.map (Text.drop column)).zip (pairs.map Prod.snd) = pairs := by
  induction h with
  | nil => rfl
  | cons hrow _ ih => rw [List.map_cons, List.map_cons, List.zip_cons_cons, hrow.drop_eq, ih]

lemma forall₂_shows (pairs : List (String × Int)) :
    List.Forall₂ (Shows (columnWidth (pairs.map Prod.snd))) pairs
      (pairs.map (row (columnWidth (pairs.map Prod.snd)))) := by
  rw [List.forall₂_map_right_iff, List.forall₂_same]
  exact fun p hp => shows_row (length_lt_columnWidth (List.mem_map_of_mem hp))

lemma tableRows?_table (things : ∀ p ∈ pairs, OneLine p.1) :
    tableRows? (table pairs) =
      some (pairs.map (row (columnWidth (pairs.map Prod.snd)))) := by
  rw [table_eq]
  refine tableRows?_fenced fun line hline => ?_
  obtain ⟨p, hp, rfl⟩ := List.mem_map.mp hline
  have hwide := length_lt_columnWidth (List.mem_map_of_mem (f := Prod.snd) hp)
  exact (shows_row hwide).oneLine (things p hp)

lemma readTable?_table (things : ∀ p ∈ pairs, OneLine p.1) :
    readTable? (table pairs) = some pairs := by
  have hshows := forall₂_shows pairs
  rw [readTable?, tableRows?_table things, Option.bind_eq_bind, Option.bind_some,
    mapM_readScore? hshows, Option.bind_eq_bind, Option.bind_some, zip_drop_eq hshows]
  rfl

lemma formatList_cases (pairs : List (String × Int)) :
    (∀ p ∈ pairs, Decimal.Short p.2) ∧ formatList pairs = .ok (table pairs) ∨
      (∃ p ∈ pairs, ¬Decimal.Short p.2) ∧ formatList pairs = .error .tooLarge := by
  by_cases short : ∀ p ∈ pairs, Decimal.Short p.2
  · exact .inl ⟨short, formatList_short short⟩
  · obtain ⟨p, hp, long⟩ : ∃ p ∈ pairs, ¬Decimal.Short p.2 := by simpa using short
    exact .inr ⟨⟨p, hp, long⟩, formatList_long hp long⟩

/-- There is a table of all scores that are short enough to be written, and otherwise the first that
is not is said to be too large. A table has a row for each thing, with all things in one column. It
can be read back, so different lists have different tables. -/
theorem tables_are_aligned_and_readable (things : ∀ p ∈ pairs, OneLine p.1) :
    ((∃ text, formatList pairs = .ok text) ↔ ∀ p ∈ pairs, Decimal.Short p.2) ∧
    ((∃ p ∈ pairs, ¬Decimal.Short p.2) → formatList pairs = .error .tooLarge) ∧
    ∀ text, formatList pairs = .ok text →
      (∃ column rows, tableRows? text = some rows ∧ List.Forall₂ (Shows column) pairs rows) ∧
      readTable? text = some pairs ∧
      ∀ others : List (String × Int), (∀ p ∈ others, OneLine p.1) →
        formatList others = .ok text → others = pairs := by
  rcases formatList_cases pairs with ⟨short, hformat⟩ | ⟨⟨p, hp, long⟩, hformat⟩
  · refine ⟨iff_of_true ⟨_, hformat⟩ short, fun ⟨p, hp, long⟩ => absurd (short p hp) long, ?_⟩
    intro text htext
    obtain rfl := Except.ok.inj (hformat.symm.trans htext)
    have hread := readTable?_table things
    refine ⟨⟨_, _, tableRows?_table things, forall₂_shows pairs⟩, hread, fun others hothers hsame => ?_⟩
    rcases formatList_cases others with ⟨-, hother⟩ | ⟨-, hother⟩
    · rw [← Except.ok.inj (hother.symm.trans hsame), readTable?_table hothers] at hread
      exact Option.some.inj hread
    · rw [hother] at hsame
      cases hsame
  · refine ⟨iff_of_false ?_ fun short => long (short p hp), fun _ => hformat, ?_⟩
    · rintro ⟨text, htext⟩
      rw [hformat] at htext
      cases htext
    · intro text htext
      rw [hformat] at htext
      cases htext

/-- A wide score widens the column for all, and a digit or a space that begins a thing is not taken
for a part of the score or of the gap. -/
theorem digits_are_told_from_scores :
    (∀ p ∈ [("7up", -1234567), (" ", 12)], OneLine p.1) ∧
      formatList [("7up", -1234567), (" ", 12)] = .ok "```-1234567 7up\n12        \n```\n" ∧
      readTable? "```-1234567 7up\n12        \n```\n" = some [("7up", -1234567), (" ", 12)] := by
  have hthings : ∀ p ∈ [("7up", (-1234567 : Int)), (" ", 12)], OneLine p.1 := by decide
  have htable : formatList [("7up", -1234567), (" ", 12)] =
      .ok "```-1234567 7up\n12        \n```\n" := by decide +kernel
  obtain ⟨-, -, hread⟩ := tables_are_aligned_and_readable hthings
  exact ⟨hthings, htable, (hread _ htable).2.1⟩

/-- A score with one digit too many has no table. -/
theorem overlong_score_has_no_table :
    let pairs := [("bob", ((Nat.pow 10 Decimal.maxDigits : Nat) : Int))]
    (∀ p ∈ pairs, OneLine p.1) ∧ ∀ text, formatList pairs ≠ .ok text := by
  intro pairs
  refine ⟨fun p hp => ?_, fun text htext => ?_⟩
  · rw [List.mem_singleton.mp hp]
    exact (by decide : OneLine "bob")
  · have hlong : formatList pairs = .error .tooLarge :=
      formatList_long List.mem_cons_self Decimal.not_short_pow.1
    rw [hlong] at htext
    cases htext

end ChatEngine.Karma
