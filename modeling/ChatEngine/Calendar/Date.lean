import ChatEngine.Decimal.Integer

/-!
# Dates and wall clock times

Dates of the proleptic Gregorian calendar and wall clock times. A day is counted from the first of
January 1970; a wall clock time is the number of seconds since the midnight that began that day.
-/
namespace ChatEngine.Calendar

/-- A date. -/
structure Date where
  year : Int
  month : Nat
  day : Nat
  deriving DecidableEq, Repr

namespace Date

/-- The number of the date's day. Years are counted from March so that leap days come last. -/
def dayNumber (d : Date) : Int :=
  let year := if d.month ≤ 2 then d.year - 1 else d.year
  let era := year / 400
  let yearOfEra := year % 400
  let shifted : Int := if d.month > 2 then d.month - 3 else d.month + 9
  let dayOfYear := (153 * shifted + 2) / 5 + d.day - 1
  let dayOfEra := yearOfEra * 365 + yearOfEra / 4 - yearOfEra / 100 + dayOfYear
  era * 146097 + dayOfEra - 719468

def ofDayNumber (n : Int) : Date :=
  let z := n + 719468
  let era := z / 146097
  let dayOfEra := z % 146097
  let yearOfEra := (dayOfEra - dayOfEra / 1460 + dayOfEra / 36524 - dayOfEra / 146096) / 365
  let dayOfYear := dayOfEra - (365 * yearOfEra + yearOfEra / 4 - yearOfEra / 100)
  let shifted := (5 * dayOfYear + 2) / 153
  let day := (dayOfYear - (153 * shifted + 2) / 5 + 1).toNat
  let month := (if shifted < 10 then shifted + 3 else shifted - 9).toNat
  let year := yearOfEra + era * 400
  ⟨if month ≤ 2 then year + 1 else year, month, day⟩

end Date

/-- The day of the week of a day, Monday being zero. -/
def weekdayOf (day : Int) : Nat := ((day + 3) % 7).toNat

def dayOf (wall : Int) : Int := wall / 86400

def wallTime (day : Int) (hour minute : Nat) : Int :=
  day * 86400 + (hour * 3600 + minute * 60 : Nat)

def padded (width : Nat) (n : Nat) : String :=
  let digits := (toString n).toList
  String.ofList (List.replicate (width - digits.length) '0' ++ digits)

def wallText (wall : Int) : String :=
  let date := Date.ofDayNumber (dayOf wall)
  let second := (wall % 86400).toNat
  padded 4 date.year.toNat ++ "-" ++ padded 2 date.month ++ "-" ++ padded 2 date.day ++ "T"
    ++ padded 2 (second / 3600) ++ ":" ++ padded 2 (second / 60 % 60) ++ ":"
    ++ padded 2 (second % 60)

/-- Reads a wall clock time such as `2024-03-10T02:30:00`; the time of day may be missing. -/
def readWall? (s : String) : Option Int := do
  let [datePart, timePart] := Text.split 'T' s ++ (if Text.contains s "T" then [] else ["00:00:00"])
    | none
  let [year, month, day] := Text.split '-' datePart | none
  let clock := Text.split ':' timePart
  let hour ← Decimal.parseInt? (← clock[0]?)
  let minute ← Decimal.parseInt? (← clock[1]?)
  let second := ((clock[2]?).bind Decimal.parseInt?).getD 0
  let date : Date :=
    ⟨← Decimal.parseInt? year, (← Decimal.parseInt? month).toNat, (← Decimal.parseInt? day).toNat⟩
  return date.dayNumber * 86400 + hour * 3600 + minute * 60 + second

end ChatEngine.Calendar
