import ChatEngine.Fault
import ChatEngine.Proofs.CanonicalIntegers

/-!
# Valid schedules

Which schedules can be used. A schedule is valid (`Schedule.Valid`) if it recurs, on a day of the
week or after an interval, and if its time of day, where it has one, is a time that its unit goes
with. Everything else is refused for one reason (`Schedule.Refused`). A valid schedule has a trigger,
which the day and the time decide on (`Schedule.Fires`).

What a time of day looks like is said as a grammar (`Schedule.TimeText`). Its digits may be of any
script, but the first of two digits may not, which is what keeps the hour and the minute in range.
-/

namespace ChatEngine
open Text

/-! ### Units -/

namespace IntervalUnit

lemma ofText?_text (unit : IntervalUnit) : ofText? unit.text = some unit := by
  cases unit <;> decide

lemma ofText?_eq_some_iff {name : String} {unit : IntervalUnit} :
    ofText? name = some unit ↔ name = unit.text := by
  constructor
  · intro h
    have hname := List.find?_some h
    exact (beq_iff_eq.mp hname).symm
  · rintro rfl
    exact ofText?_text unit

lemma ofText?_eq_none_iff {name : String} :
    ofText? name = none ↔ ∀ unit : IntervalUnit, name ≠ unit.text := by
  rw [Option.eq_none_iff_forall_ne_some]
  exact forall_congr' fun unit => not_congr ofText?_eq_some_iff

/-- The unit goes with a time of day. -/
def Timed (unit : IntervalUnit) : Prop := unit = .days ∨ unit = .weeks

end IntervalUnit

/-! ### Digits of a time -/

lemma Text.digitValue?_of_le {c last : Char} (low : '0' ≤ c) (high : c ≤ last)
    (hlast : last ≤ '9') : digitValue? c = some (c.toNat - 48) := by
  refine Decimal.digitValue?_of_isDigit ?_
  rw [Char.isDigit_iff_toNat]
  exact ⟨low, Nat.le_trans high hlast⟩

namespace Decimal

lemma readNat?_singleton (c : Char) : readNat? [c] = digitValue? c := by
  rw [readNat?]
  cases digitValue? c <;> rfl

lemma readNat?_pair {a b : Char} {m n : Nat} (ha : digitValue? a = some m)
    (hb : digitValue? b = some n) : readNat? [a, b] = some (10 * m + n) := by
  rw [readNat?, ha, Option.bind_some, readDigits?_cons (isDigit_of_digitValue? hb), hb]
  rfl

end Decimal

namespace Schedule

/-! ### The grammar of a time -/

/-- The digits of an hour: any digit, by itself or after a zero or a one, and 20 to 23. -/
inductive HourText : List Char → Prop where
  | single {d : Char} (digit : isDigit d = true) : HourText [d]
  | double {tens d : Char} (early : tens = '0' ∨ tens = '1') (digit : isDigit d = true) :
      HourText [tens, d]
  | late {d : Char} (low : '0' ≤ d) (high : d ≤ '3') : HourText ['2', d]

/-- The digits of a minute: any digit after one from zero to five. -/
inductive MinuteText : List Char → Prop where
  | double {tens d : Char} (low : '0' ≤ tens) (high : tens ≤ '5') (digit : isDigit d = true) :
      MinuteText [tens, d]

/-- A time of day is an hour, a colon and a minute; one line end may follow. -/
structure TimeText (cs hs ms : List Char) : Prop where
  hour : HourText hs
  minute : MinuteText ms
  text : cs = hs ++ ':' :: ms ∨ cs = hs ++ ':' :: (ms ++ ['\n'])

lemma HourText.digits {hs : List Char} (h : HourText hs) : ∀ c ∈ hs, isDigit c = true := by
  cases h with
  | single digit => simpa using digit
  | double early digit =>
    rcases early with rfl | rfl
    · simpa using ⟨by decide, digit⟩
    · simpa using ⟨by decide, digit⟩
  | late low high =>
    have hd := Decimal.isDigit_of_digitValue? (digitValue?_of_le low high (by decide))
    simpa using ⟨by decide, hd⟩

lemma MinuteText.digits {ms : List Char} (h : MinuteText ms) : ∀ c ∈ ms, isDigit c = true := by
  obtain ⟨low, high, digit⟩ := h
  have htens := Decimal.isDigit_of_digitValue? (digitValue?_of_le low high (by decide))
  simpa using ⟨htens, digit⟩

lemma readNat?_early {tens d : Char} {n : Nat} (early : tens = '0' ∨ tens = '1')
    (hn : digitValue? d = some n) :
    Decimal.readNat? [tens, d] = some (10 * (tens.toNat - 48) + n) := by
  rcases early with rfl | rfl
  · exact Decimal.readNat?_pair (by decide) hn
  · exact Decimal.readNat?_pair (by decide) hn

lemma HourText.lt {hs : List Char} {hour : Nat} (h : HourText hs)
    (value : Decimal.readNat? hs = some hour) : hour < 24 := by
  cases h with
  | single digit =>
    rw [Decimal.readNat?_singleton] at value
    have := Decimal.digitValue?_lt value
    omega
  | @double tens d early digit =>
    obtain ⟨n, hn⟩ := Option.isSome_iff_exists.mp digit
    rw [readNat?_early early hn] at value
    have := Decimal.digitValue?_lt hn
    have htens : tens.toNat ≤ 49 := by rcases early with rfl | rfl <;> decide
    cases value
    omega
  | @late d low high =>
    have hn := digitValue?_of_le low high (by decide)
    rw [Decimal.readNat?_pair (m := 2) (by decide) hn] at value
    have hhigh : d.toNat ≤ 51 := high
    cases value
    omega

lemma readHour?_colon (a : Char) (rest : List Char) :
    readHour? (a :: ':' :: rest) = (digitValue? a).map fun n => (n, rest) := rfl

lemma readHour?_digit {a b : Char} (hb : isDigit b = true) (rest : List Char) :
    readHour? (a :: b :: ':' :: rest) =
      if a = '0' ∨ a = '1' then (digitValue? b).map fun n => (10 * (a.toNat - 48) + n, rest)
      else if a = '2' ∧ '0' ≤ b ∧ b ≤ '3' then some (20 + (b.toNat - 48), rest)
      else none := by
  rw [readHour?.eq_def]
  split
  -- A digit is no colon, so the hour does not end after the first character.
  · next heq =>
    have hcolon := (List.cons.inj (List.cons.inj heq).2).1
    exact absurd hcolon (Decimal.digit_ne hb (by decide))
  · next heq =>
    cases heq
    simp only [Bool.or_eq_true, Bool.and_eq_true, decide_eq_true_eq, and_assoc]
  · next hother => exact absurd rfl (hother a b rest)

lemma readHour?_eq_some_iff {cs rest : List Char} {hour : Nat} :
    readHour? cs = some (hour, rest) ↔
      ∃ hs, HourText hs ∧ cs = hs ++ ':' :: rest ∧ Decimal.readNat? hs = some hour := by
  constructor
  · intro h
    rw [readHour?.eq_def] at h
    split at h
    · next a rest' =>
      obtain ⟨n, hn, heq⟩ := Option.map_eq_some_iff.mp h
      cases heq
      exact ⟨[a], .single (Decimal.isDigit_of_digitValue? hn), rfl,
        (Decimal.readNat?_singleton a).trans hn⟩
    · next a b rest' _ =>
      split at h
      · next hearly =>
        obtain ⟨n, hn, heq⟩ := Option.map_eq_some_iff.mp h
        cases heq
        have htens : a = '0' ∨ a = '1' := by simpa using hearly
        exact ⟨[a, b], .double htens (Decimal.isDigit_of_digitValue? hn), rfl,
          readNat?_early htens hn⟩
      · split at h
        · next hlate =>
          cases h
          simp only [Bool.and_eq_true, decide_eq_true_eq] at hlate
          obtain ⟨⟨rfl, low⟩, high⟩ := hlate
          exact ⟨['2', b], .late low high, rfl,
            Decimal.readNat?_pair (m := 2) (by decide) (digitValue?_of_le low high (by decide))⟩
        · cases h
    · cases h
  · rintro ⟨hs, hhour, rfl, value⟩
    cases hhour with
    | @single d digit =>
      rw [Decimal.readNat?_singleton] at value
      rw [List.singleton_append, readHour?_colon, value, Option.map_some]
    | @double tens d early digit =>
      obtain ⟨n, hn⟩ := Option.isSome_iff_exists.mp digit
      rw [readNat?_early early hn] at value
      cases value
      rw [List.cons_append, List.singleton_append, readHour?_digit digit, if_pos early, hn]
      rfl
    | @late d low high =>
      have hn := digitValue?_of_le low high (by decide)
      rw [Decimal.readNat?_pair (m := 2) (by decide) hn] at value
      cases value
      rw [List.cons_append, List.singleton_append,
        readHour?_digit (Decimal.isDigit_of_digitValue? hn), if_neg (by decide),
        if_pos ⟨rfl, low, high⟩]

lemma MinuteText.lt {ms : List Char} {minute : Nat} (h : MinuteText ms)
    (value : Decimal.readNat? ms = some minute) : minute < 60 := by
  obtain @⟨tens, d, low, high, digit⟩ := h
  obtain ⟨n, hn⟩ := Option.isSome_iff_exists.mp digit
  rw [Decimal.readNat?_pair (digitValue?_of_le low high (by decide)) hn] at value
  have := Decimal.digitValue?_lt hn
  have hhigh : tens.toNat ≤ 53 := high
  cases value
  omega

lemma readMinute?_pair {a b : Char} {minute : Nat} :
    readMinute? [a, b] = some minute ↔
      MinuteText [a, b] ∧ Decimal.readNat? [a, b] = some minute := by
  change (if ('0' ≤ a && a ≤ '5') = true then
    (digitValue? b).map fun n => 10 * (a.toNat - 48) + n else none) = some minute ↔ _
  simp only [Bool.and_eq_true, decide_eq_true_eq]
  constructor
  · intro h
    split at h
    · next hrange =>
      obtain ⟨n, hn, rfl⟩ := Option.map_eq_some_iff.mp h
      exact ⟨.double hrange.1 hrange.2 (Decimal.isDigit_of_digitValue? hn),
        Decimal.readNat?_pair (digitValue?_of_le hrange.1 hrange.2 (by decide)) hn⟩
    · cases h
  · rintro ⟨@⟨_, _, low, high, digit⟩, value⟩
    obtain ⟨n, hn⟩ := Option.isSome_iff_exists.mp digit
    rw [Decimal.readNat?_pair (digitValue?_of_le low high (by decide)) hn] at value
    rw [if_pos ⟨low, high⟩, hn]
    exact value

lemma readMinute?_eq_some_iff {cs : List Char} {minute : Nat} :
    readMinute? cs = some minute ↔
      ∃ ms, MinuteText ms ∧ (cs = ms ∨ cs = ms ++ ['\n']) ∧
        Decimal.readNat? ms = some minute := by
  constructor
  · intro h
    rw [readMinute?.eq_def] at h
    split at h
    · next a b =>
      obtain ⟨hminute, value⟩ := readMinute?_pair.mp h
      exact ⟨[a, b], hminute, .inl rfl, value⟩
    · next a b =>
      obtain ⟨hminute, value⟩ := readMinute?_pair.mp h
      exact ⟨[a, b], hminute, .inr rfl, value⟩
    · cases h
  · rintro ⟨ms, hminute, hend, value⟩
    obtain @⟨tens, d, low, high, digit⟩ := hminute
    have hpair := readMinute?_pair.mpr ⟨.double low high digit, value⟩
    rcases hend with rfl | rfl
    · exact hpair
    · exact hpair

lemma readTime?_eq_some_iff {cs : List Char} {hour minute : Nat} :
    readTime? cs = some (hour, minute) ↔
      ∃ hs ms, TimeText cs hs ms ∧ Decimal.readNat? hs = some hour ∧
        Decimal.readNat? ms = some minute := by
  unfold readTime?
  rw [Option.bind_eq_bind, Option.bind_eq_some_iff]
  constructor
  · rintro ⟨⟨h, rest⟩, hhour, hrest⟩
    obtain ⟨m, hminute, heq⟩ := Option.bind_eq_some_iff.mp hrest
    cases heq
    obtain ⟨hs, hhs, rfl, hvalue⟩ := readHour?_eq_some_iff.mp hhour
    obtain ⟨ms, hms, hend, mvalue⟩ := readMinute?_eq_some_iff.mp hminute
    refine ⟨hs, ms, ⟨hhs, hms, ?_⟩, hvalue, mvalue⟩
    rcases hend with rfl | rfl
    · exact .inl rfl
    · exact .inr rfl
  · rintro ⟨hs, ms, ⟨hhs, hms, hcs⟩, hvalue, mvalue⟩
    obtain ⟨rest, hend, rfl⟩ : ∃ rest, (rest = ms ∨ rest = ms ++ ['\n']) ∧
        cs = hs ++ ':' :: rest := by
      rcases hcs with rfl | rfl
      · exact ⟨ms, .inl rfl, rfl⟩
      · exact ⟨ms ++ ['\n'], .inr rfl, rfl⟩
    refine ⟨(hour, rest), readHour?_eq_some_iff.mpr ⟨hs, hhs, rfl, hvalue⟩, ?_⟩
    dsimp only
    rw [readMinute?_eq_some_iff.mpr ⟨ms, hms, hend, mvalue⟩]
    rfl

lemma TimeText.exists_readTime? {cs hs ms : List Char} (h : TimeText cs hs ms) :
    ∃ at_, readTime? cs = some at_ := by
  have hne : hs ≠ [] := by
    obtain ⟨hour, -, -⟩ := h
    cases hour <;> exact List.cons_ne_nil _ _
  have hne' : ms ≠ [] := by
    obtain ⟨-, minute, -⟩ := h
    cases minute
    exact List.cons_ne_nil _ _
  obtain ⟨hour, hvalue⟩ := Decimal.exists_readNat? h.hour.digits hne
  obtain ⟨minute, mvalue⟩ := Decimal.exists_readNat? h.minute.digits hne'
  exact ⟨(hour, minute), readTime?_eq_some_iff.mpr ⟨hs, ms, h, hvalue, mvalue⟩⟩

/-! ### What a schedule says of the time -/

/-- The schedule has no time of day. -/
def Untimed (s : Schedule) : Prop := s.atTime = none ∨ s.atTime = some ""

/-- The schedule has a time of day, whose digits are read as its hour and its minute. -/
def Shows (s : Schedule) (hour minute : Nat) : Prop :=
  ∃ (time : String) (hs ms : List Char), s.atTime = some time ∧ TimeText time.toList hs ms ∧
    Decimal.readInt (String.ofList hs) = .ok (hour : Int) ∧
    Decimal.readInt (String.ofList ms) = .ok (minute : Int)

variable {s : Schedule} {time : String} {hs ms : List Char} {hour minute : Nat}

lemma TimeText.ne_empty (h : TimeText time.toList hs ms) : time ≠ "" := by
  rintro rfl
  rcases h.text with htext | htext
  · exact List.append_ne_nil_of_right_ne_nil _ (List.cons_ne_nil _ _) htext.symm
  · exact List.append_ne_nil_of_right_ne_nil _ (List.cons_ne_nil _ _) htext.symm

lemma time?_eq_none_iff : s.time? = none ↔ s.Untimed := by
  unfold time? Untimed
  cases s.atTime with
  | none => simp
  | some time => simp

lemma time?_eq_some_iff : s.time? = some time ↔ s.atTime = some time ∧ time ≠ "" := by
  unfold time?
  rw [Option.filter_eq_some_iff]
  simp

lemma Shows.not_untimed (h : s.Shows hour minute) : ¬s.Untimed := by
  obtain ⟨time, hs, ms, hat, htext, -⟩ := h
  rintro (hnone | hempty)
  · rw [hat] at hnone
    cases hnone
  · rw [hat] at hempty
    exact htext.ne_empty (Option.some.inj hempty)

lemma HourText.length_le (h : HourText hs) : hs.length ≤ Decimal.maxDigits := by
  cases h <;> exact Nat.le_of_ble_eq_true rfl

lemma MinuteText.length_le (h : MinuteText ms) : ms.length ≤ Decimal.maxDigits := by
  cases h
  exact Nat.le_of_ble_eq_true rfl

/-- The hour and the minute of a time are what its digits are read as. -/
lemma readTime?_reads (h : readTime? time.toList = some (hour, minute)) :
    ∃ hs ms, TimeText time.toList hs ms ∧
      Decimal.readInt (String.ofList hs) = .ok (hour : Int) ∧
      Decimal.readInt (String.ofList ms) = .ok (minute : Int) := by
  obtain ⟨hs, ms, htext, hvalue, mvalue⟩ := readTime?_eq_some_iff.mp h
  have hhour := Decimal.readInt_of_readNat? htext.hour.digits hvalue
  have hminute := Decimal.readInt_of_readNat? htext.minute.digits mvalue
  rw [if_neg (Nat.not_lt.mpr htext.hour.length_le)] at hhour
  rw [if_neg (Nat.not_lt.mpr htext.minute.length_le)] at hminute
  exact ⟨hs, ms, htext, hhour, hminute⟩

lemma readTime?_range {cs : List Char} (h : readTime? cs = some (hour, minute)) :
    hour < 24 ∧ minute < 60 := by
  obtain ⟨hs, ms, htext, hvalue, mvalue⟩ := readTime?_eq_some_iff.mp h
  exact ⟨htext.hour.lt hvalue, htext.minute.lt mvalue⟩

/-- Digits of other scripts count after the first. -/
example : readTime? "1٩:0٥\n".toList = some (19, 5) ∧ readTime? "٢3:00".toList = none := by decide

/-- What asking for the time of a schedule comes to. -/
inductive Asked (s : Schedule) : Except ScheduleError (Option (Nat × Nat)) → Prop where
  | untimed (untimed : s.Untimed) : Asked s (.ok none)
  | time {hour minute : Nat} (shows_ : s.Shows hour minute) (early : hour < 24)
      (short : minute < 60) : Asked s (.ok (some (hour, minute)))
  | unreadable {time : String} (timed : s.atTime = some time) (ne : time ≠ "")
      (noTime : ∀ hs ms, ¬TimeText time.toList hs ms) : Asked s (.error (.timeOfDay time s))

lemma hourMinute_asked (s : Schedule) : Asked s s.hourMinute := by
  unfold hourMinute
  cases htime : s.time? with
  | none => exact .untimed (time?_eq_none_iff.mp htime)
  | some time =>
    obtain ⟨hat, hne⟩ := time?_eq_some_iff.mp htime
    dsimp only
    cases hread : readTime? time.toList with
    | none =>
      refine .unreadable hat hne fun hs ms htext => ?_
      obtain ⟨at_, h⟩ := htext.exists_readTime?
      rw [hread] at h
      cases h
    | some at_ =>
      obtain ⟨hs, ms, htext, hhour, hminute⟩ := readTime?_reads hread
      obtain ⟨early, short⟩ := readTime?_range hread
      exact .time ⟨time, hs, ms, hat, htext, hhour, hminute⟩ early short

/-! ### Which schedules are valid -/

/-- The schedule recurs, on a day of the week or after a positive interval of some unit. -/
def Recurs (s : Schedule) : Prop :=
  (∃ day ∈ weekdays, s.weekday = some day) ∨
    s.weekday = none ∧ (∃ unit : IntervalUnit, s.unit = unit.text) ∧ 1 ≤ s.interval

/-- The schedule can be used: it recurs, and if it has a time of day, the text of the time is one,
and the unit that counts is one of days. -/
structure Valid (s : Schedule) : Prop where
  recurs : s.Recurs
  timed : s.Untimed ∨
    (∃ (time : String) (hs ms : List Char), s.atTime = some time ∧ TimeText time.toList hs ms) ∧
      ∃ unit, s.effectiveUnit? = some unit ∧ unit.Timed

/-- Why the schedule cannot be used. -/
inductive Refused (s : Schedule) : ScheduleError → Prop where
  | weekday {name : String} (dated : s.weekday = some name) (unknown : name ∉ weekdays) :
      Refused s (.weekday name s)
  | unit (undated : s.weekday = none) (unknown : ∀ unit : IntervalUnit, s.unit ≠ unit.text) :
      Refused s (.unit s.unit)
  | interval (undated : s.weekday = none) (low : s.interval < 1) : Refused s (.interval s.interval)
  | timeOfDay {time : String} (recurs : s.Recurs) (timed : s.atTime = some time) (ne : time ≠ "")
      (noTime : ∀ hs ms, ¬TimeText time.toList hs ms) : Refused s (.timeOfDay time s)
  | timeNeedsDays (recurs : s.Recurs) (timed : ¬s.Untimed)
      (short : ∀ unit, s.effectiveUnit? = some unit → ¬unit.Timed) : Refused s (.timeNeedsDays s)

lemma Recurs.of_dated (h : s.Recurs) {day : String} (dated : s.weekday = some day) :
    day ∈ weekdays := by
  rcases h with ⟨day', known, dated'⟩ | ⟨undated, -⟩
  · rw [dated] at dated'
    rwa [Option.some.inj dated']
  · rw [dated] at undated
    cases undated

lemma Recurs.of_undated (h : s.Recurs) (undated : s.weekday = none) :
    (∃ unit : IntervalUnit, s.unit = unit.text) ∧ 1 ≤ s.interval := by
  rcases h with ⟨day, -, dated⟩ | ⟨-, hunit, hinterval⟩
  · rw [undated] at dated
    cases dated
  · exact ⟨hunit, hinterval⟩

lemma day?_dated {day : String} (dated : s.weekday = some day) (known : day ∈ weekdays) :
    s.day? = some day := by
  have hne : ∀ day ∈ weekdays, day.isEmpty = false := by decide
  unfold day?
  rw [dated, Option.filter_some, hne day known]
  rfl

lemma day?_undated (undated : s.weekday = none) : s.day? = none := by
  unfold day?
  rw [undated]
  rfl

lemma effectiveUnit?_dated {day : String} (dated : s.weekday = some day) (known : day ∈ weekdays) :
    s.effectiveUnit? = some .weeks := by
  unfold effectiveUnit?
  rw [day?_dated dated known]

lemma effectiveUnit?_undated (undated : s.weekday = none) :
    s.effectiveUnit? = IntervalUnit.ofText? s.unit := by
  unfold effectiveUnit?
  rw [day?_undated undated]

lemma Recurs.exists_effectiveUnit? (h : s.Recurs) : ∃ unit, s.effectiveUnit? = some unit := by
  rcases h with ⟨day, known, dated⟩ | ⟨undated, ⟨unit, hunit⟩, -⟩
  · exact ⟨.weeks, effectiveUnit?_dated dated known⟩
  · exact ⟨unit, (effectiveUnit?_undated undated).trans (IntervalUnit.ofText?_eq_some_iff.mpr hunit)⟩

/-- The check of the time, which comes after that of the recurrence. -/
def checkTime (s : Schedule) (at_ : Option (Nat × Nat)) : Except ScheduleError Unit :=
  if at_.isSome then
    match s.effectiveUnit? with
    | some .days | some .weeks => .ok ()
    | _ => .error (.timeNeedsDays s)
  else .ok ()

lemma validate_of_recurs (h : s.Recurs) : s.validate = s.hourMinute >>= s.checkTime := by
  unfold validate
  rcases h with ⟨day, known, dated⟩ | ⟨undated, ⟨unit, hunit⟩, hinterval⟩
  · have hknown : weekdays.contains day = true := List.contains_iff_mem.mpr known
    simp only [dated, hknown]
    rfl
  · have hknown : (IntervalUnit.ofText? s.unit).isNone = false := by
      rw [IntervalUnit.ofText?_eq_some_iff.mpr hunit]
      rfl
    simp only [undated, hknown, if_neg (Int.not_lt.mpr hinterval)]
    rfl

lemma validate_of_not_recurs (h : ¬s.Recurs) : ∃ e, s.validate = .error e ∧ s.Refused e := by
  unfold validate
  cases hday : s.weekday with
  | some day =>
    have unknown : day ∉ weekdays := fun known => h (.inl ⟨day, known, hday⟩)
    have hunknown : weekdays.contains day = false :=
      Bool.eq_false_iff.mpr (mt List.contains_iff_mem.mp unknown)
    refine ⟨.weekday day s, ?_, .weekday hday unknown⟩
    simp only [hunknown]
    rfl
  | none =>
    cases hunit : IntervalUnit.ofText? s.unit with
    | none => exact ⟨.unit s.unit, rfl, .unit hday (IntervalUnit.ofText?_eq_none_iff.mp hunit)⟩
    | some unit =>
      have low : s.interval < 1 := Int.not_le.mp fun hinterval =>
        h (.inr ⟨hday, ⟨unit, IntervalUnit.ofText?_eq_some_iff.mp hunit⟩, hinterval⟩)
      refine ⟨.interval s.interval, ?_, .interval hday low⟩
      simp only [if_pos low]
      rfl

lemma checkTime_some (at_ : Nat × Nat) {unit : IntervalUnit} (h : s.effectiveUnit? = some unit) :
    s.checkTime (some at_) = .ok () ∧ unit.Timed ∨
      s.checkTime (some at_) = .error (.timeNeedsDays s) ∧ ¬unit.Timed := by
  unfold checkTime IntervalUnit.Timed
  rw [h]
  cases unit <;> simp

/-- A schedule is valid or refused. -/
lemma validate_cases (s : Schedule) :
    s.validate = .ok () ∧ s.Valid ∨ ∃ e, s.validate = .error e ∧ s.Refused e := by
  by_cases recurs : s.Recurs
  · rw [validate_of_recurs recurs]
    have hasked := hourMinute_asked s
    generalize s.hourMinute = asked at hasked ⊢
    cases hasked with
    | untimed untimed => exact .inl ⟨rfl, recurs, .inl untimed⟩
    | @time hour minute shows_ early short =>
      obtain ⟨unit, hunit⟩ := recurs.exists_effectiveUnit?
      have not_untimed := shows_.not_untimed
      obtain ⟨time, hs, ms, timed, htext, -⟩ := shows_
      rcases checkTime_some (hour, minute) hunit with ⟨hcheck, hdays⟩ | ⟨hcheck, hshort⟩
      · exact .inl ⟨hcheck, recurs, .inr ⟨⟨time, hs, ms, timed, htext⟩, unit, hunit, hdays⟩⟩
      · refine .inr ⟨_, hcheck, .timeNeedsDays recurs not_untimed fun unit' hunit' => ?_⟩
        rw [hunit] at hunit'
        cases hunit'
        exact hshort
    | unreadable timed ne noTime => exact .inr ⟨_, rfl, .timeOfDay recurs timed ne noTime⟩
  · exact .inr (validate_of_not_recurs recurs)

lemma Valid.not_refused (valid : s.Valid) {e : ScheduleError} : ¬s.Refused e := by
  obtain ⟨recurs, timed⟩ := valid
  intro refused
  cases refused with
  | weekday dated unknown => exact unknown (recurs.of_dated dated)
  | unit undated unknown =>
    obtain ⟨⟨unit, hunit⟩, -⟩ := recurs.of_undated undated
    exact unknown unit hunit
  | interval undated low => exact absurd (recurs.of_undated undated).2 (Int.not_le.mpr low)
  | timeOfDay _ timed' ne noTime =>
    rcases timed with (hnone | hempty) | ⟨⟨time, hs, ms, htime, htext⟩, -⟩
    · rw [timed'] at hnone
      cases hnone
    · rw [timed'] at hempty
      exact ne (Option.some.inj hempty)
    · rw [timed'] at htime
      cases htime
      exact noTime hs ms htext
  | timeNeedsDays _ timed' short =>
    rcases timed with untimed | ⟨-, unit, hunit, hdays⟩
    · exact timed' untimed
    · exact short unit hunit hdays

lemma validate_eq_ok_iff : s.validate = .ok () ↔ s.Valid := by
  constructor
  · intro h
    rcases validate_cases s with ⟨-, valid⟩ | ⟨e, herror, -⟩
    · exact valid
    · rw [h] at herror
      cases herror
  · intro valid
    rcases validate_cases s with ⟨h, -⟩ | ⟨e, -, refused⟩
    · exact h
    · exact absurd refused valid.not_refused

lemma refused_of_validate {e : ScheduleError} (h : s.validate = .error e) : s.Refused e := by
  rcases validate_cases s with ⟨hok, -⟩ | ⟨e', herror, refused⟩
  · rw [h] at hok
    cases hok
  · rw [h] at herror
    cases herror
    exact refused

/-! ### The trigger of a schedule -/

/-- The triggers of a valid schedule: with a day weekly, at its time or at midnight; without day and
time at intervals; and with a time alone every so many days at that time. -/
inductive Fires (s : Schedule) : Trigger → Prop where
  | midnight {day : String} (dated : s.weekday = some day) (untimed : s.Untimed) :
      Fires s (.weekly (weekdays.idxOf day) 0 0)
  | weekly {day : String} {hour minute : Nat} (dated : s.weekday = some day)
      (shows_ : s.Shows hour minute) : Fires s (.weekly (weekdays.idxOf day) hour minute)
  | interval {unit : IntervalUnit} (undated : s.weekday = none) (known : s.unit = unit.text)
      (untimed : s.Untimed) : Fires s (.interval (s.interval.toNat * unit.length))
  | daily {unit : IntervalUnit} {hour minute : Nat} (undated : s.weekday = none)
      (known : s.unit = unit.text) (days : unit.Timed) (shows_ : s.Shows hour minute) :
      Fires s (.daily (s.interval.toNat * (unit.length / 86400)) hour minute)

/-- The day and the time of a schedule decide on the kind of its trigger. -/
structure Decides (s : Schedule) (trigger : Trigger) : Prop where
  weekly : (∃ day hour minute, trigger = .weekly day hour minute) ↔ s.weekday ≠ none
  interval : (∃ seconds, trigger = .interval seconds) ↔ s.weekday = none ∧ s.Untimed
  daily : (∃ days hour minute, trigger = .daily days hour minute) ↔
    s.weekday = none ∧ ¬s.Untimed

lemma Fires.decides {trigger : Trigger} (h : s.Fires trigger) : s.Decides trigger := by
  cases h with
  | midnight dated untimed => constructor <;> simp [dated]
  | weekly dated shows_ => constructor <;> simp [dated]
  | interval undated known untimed => constructor <;> simp [undated, untimed]
  | daily undated known days shows_ => constructor <;> simp [undated, shows_.not_untimed]

lemma Valid.timed_unit (valid : s.Valid) (timed : ¬s.Untimed) {unit : IntervalUnit}
    (hunit : s.effectiveUnit? = some unit) : unit.Timed := by
  rcases valid.timed with untimed | ⟨-, unit', hunit', hdays⟩
  · exact absurd untimed timed
  · rw [hunit] at hunit'
    rwa [Option.some.inj hunit']

/-- The time of a valid schedule can be asked for. -/
lemma Valid.time_cases (valid : s.Valid) :
    s.hourMinute = .ok none ∧ s.Untimed ∨ ∃ hour minute,
      s.hourMinute = .ok (some (hour, minute)) ∧ s.Shows hour minute ∧ hour < 24 ∧ minute < 60 := by
  have hasked := hourMinute_asked s
  generalize s.hourMinute = asked at hasked ⊢
  cases hasked with
  | untimed untimed => exact .inl ⟨rfl, untimed⟩
  | @time hour minute shows_ early short => exact .inr ⟨hour, minute, rfl, shows_, early, short⟩
  | unreadable timed ne noTime =>
    exact absurd (.timeOfDay valid.recurs timed ne noTime) valid.not_refused

lemma Valid.exists_fires (valid : s.Valid) :
    ∃ trigger, Trigger.ofSchedule s = .ok trigger ∧ s.Fires trigger := by
  have hvalid : s.validate = .ok () := validate_eq_ok_iff.mpr valid
  unfold Trigger.ofSchedule
  rw [hvalid]
  cases hday : s.weekday with
  | some day =>
    rw [day?_dated hday (valid.recurs.of_dated hday)]
    rcases valid.time_cases with ⟨htime, untimed⟩ | ⟨hour, minute, htime, shows_, -⟩
    · rw [htime]
      exact ⟨_, rfl, .midnight hday untimed⟩
    · rw [htime]
      exact ⟨_, rfl, .weekly hday shows_⟩
  | none =>
    obtain ⟨⟨unit, known⟩, -⟩ := valid.recurs.of_undated hday
    have hunit := IntervalUnit.ofText?_eq_some_iff.mpr known
    rw [day?_undated hday, hunit]
    rcases valid.time_cases with ⟨htime, untimed⟩ | ⟨hour, minute, htime, shows_, -⟩
    · rw [htime]
      exact ⟨_, rfl, .interval hday known untimed⟩
    · have hdays := valid.timed_unit shows_.not_untimed ((effectiveUnit?_undated hday).trans hunit)
      rw [htime]
      exact ⟨_, rfl, .daily hday known hdays shows_⟩

/-! ### The wording of a refusal -/

/-- The number that a schedule in words has. -/
def told (s : Schedule) : Option Int :=
  if s.day?.isSome ∨ s.interval = 1 then none else some s.interval

lemma often_tells (s : Schedule) : Decimal.Tells s.told s.often := by
  unfold often told
  cases s.day? with
  | some day => exact .told nofun
  | none =>
    by_cases hone : s.interval = 1
    · rw [if_pos hone, if_pos (.inr hone)]
      exact .told nofun
    · rw [if_neg hone, if_neg (by simpa using hone)]
      exact (Decimal.writeInt_tells s.interval).map _

lemma text_tells (s : Schedule) : Decimal.Tells s.told s.text := s.often_tells.map _

end Schedule

/-- The number that the wording of a refusal has. -/
def ScheduleError.told : ScheduleError → Option Int
  | .weekday _ s | .timeOfDay _ s | .timeNeedsDays s => s.told
  | .unit _ => none
  | .interval n => some n

lemma ScheduleError.message_tells (e : ScheduleError) : Decimal.Tells e.told e.message := by
  unfold told message
  cases e with
  | weekday name s => exact s.text_tells.map _
  | unit name => exact .told nofun
  | interval n => exact (Decimal.writeInt_tells n).map _
  | timeOfDay time s => exact s.text_tells.map _
  | timeNeedsDays s => exact s.text_tells.map _

/-- A refusal is a schedule error, unless its wording has a number with too many digits. -/
lemma ScheduleError.fault_cases (e : ScheduleError) :
    (∀ n ∈ e.told, Decimal.Short n) ∧ e.fault.kind = .schedule ∨
      (∃ n ∈ e.told, ¬Decimal.Short n) ∧
        e.fault = .invalidValue Decimal.IntegerError.tooLarge.message := by
  have htells := e.message_tells
  unfold ScheduleError.fault
  generalize e.told = told, e.message = message at htells ⊢
  cases htells with
  | told short => exact .inl ⟨short, rfl⟩
  | untold long => exact .inr ⟨⟨_, rfl, long⟩, rfl⟩

/-- Schedules are validated completely. A schedule passes exactly if it is valid, and otherwise is
refused for what is wrong with it; then there is no trigger of it for the same reason. The refusal is
a schedule error exactly if the number in its wording, where there is one, has few enough digits to
be written, and fails on that number otherwise. The unit and the time of a valid schedule are known,
its hour and minute are in range, and it has the trigger that its day and its time decide on. -/
theorem schedules_are_validated_completely (s : Schedule) :
    (s.validate = .ok () ↔ s.Valid) ∧
      (∀ e, s.validate = .error e → s.Refused e ∧ Trigger.ofSchedule s = .error e ∧
        (e.fault.kind = .schedule ↔ ∀ n ∈ e.told, Decimal.Short n) ∧
        ((∃ n ∈ e.told, ¬Decimal.Short n) →
          e.fault = .invalidValue Decimal.IntegerError.tooLarge.message)) ∧
      (s.Valid → (∃ unit, s.effectiveUnit? = some unit) ∧
        (s.hourMinute = .ok none ∧ s.Untimed ∨ ∃ hour minute,
          s.hourMinute = .ok (some (hour, minute)) ∧ s.Shows hour minute ∧
            hour < 24 ∧ minute < 60) ∧
        ∃ trigger, Trigger.ofSchedule s = .ok trigger ∧ s.Fires trigger ∧ s.Decides trigger) := by
  refine ⟨Schedule.validate_eq_ok_iff, fun e h => ⟨Schedule.refused_of_validate h, ?_, ?_⟩,
    fun valid => ⟨valid.recurs.exists_effectiveUnit?, valid.time_cases, ?_⟩⟩
  · unfold Trigger.ofSchedule
    rw [h]
    rfl
  · rcases e.fault_cases with ⟨short, hkind⟩ | ⟨⟨n, hn, long⟩, hfault⟩
    · exact ⟨iff_of_true hkind short, fun ⟨n, hn, long⟩ => absurd (short n hn) long⟩
    · refine ⟨iff_of_false ?_ fun short => long (short n hn), fun _ => hfault⟩
      rw [hfault]
      exact nofun
  · obtain ⟨trigger, hmade, fires⟩ := valid.exists_fires
    exact ⟨trigger, hmade, fires, fires.decides⟩

/-- An interval with one digit too many, and below one, is refused with an error of another kind. -/
theorem untold_interval_is_no_schedule_error :
    ∃ (s : Schedule) (e : ScheduleError), s.interval = -(Nat.pow 10 Decimal.maxDigits : Nat) ∧
      s.validate = .error e ∧ e.fault.kind ≠ .schedule := by
  have hlong := Decimal.not_short_pow.2
  generalize Nat.pow 10 Decimal.maxDigits = bound at hlong ⊢
  have hlow : -(bound : Int) < 1 := by omega
  refine ⟨{ interval := -bound }, .interval (-bound), rfl, ?_, ?_⟩
  · unfold Schedule.validate
    simp only [if_pos hlow]
    rfl
  · rcases ScheduleError.fault_cases (.interval (-bound)) with ⟨short, -⟩ | ⟨-, hfault⟩
    · exact absurd (short _ rfl) hlong
    · rw [hfault]
      exact nofun

end ChatEngine
