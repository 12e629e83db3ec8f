import ChatEngine.Calendar.Date

/-!
# Moments

Moments written in a document: a date, or a date with a time of day and perhaps the distance of its
clock from universal time.
-/
namespace ChatEngine.Calendar

/-- A time of day, to the microsecond. -/
structure TimeOfDay where
  hour : Nat
  minute : Nat
  second : Nat
  micro : Nat := 0
  deriving DecidableEq, Repr

/-- A moment. -/
inductive Moment where
  | day (date : Date)
  /-- The distance is in minutes. -/
  | time (date : Date) (time : TimeOfDay) (offset : Option Int)
  deriving DecidableEq, Repr

/-- Why numbers make no moment. -/
inductive MomentError where
  | year (n : Int)
  | month
  | day
  | hour
  | minute
  | second
  /-- The distance from universal time, in minutes, is a day or more. -/
  | offset (minutes : Int)
  deriving DecidableEq, Repr

def monthLength (year : Int) (month : Nat) : Nat :=
  let next : Date := if month = 12 then ⟨year + 1, 1, 1⟩ else ⟨year, month + 1, 1⟩
  (next.dayNumber - Date.dayNumber ⟨year, month, 1⟩).toNat

def Date.of (year month day : Nat) : Except MomentError Date :=
  if year < 1 || 9999 < year then .error (.year year)
  else if month < 1 || 12 < month then .error .month
  else if day < 1 || monthLength year month < day then .error .day
  else .ok ⟨year, month, day⟩

namespace TimeOfDay

def check (t : TimeOfDay) : Except MomentError Unit :=
  if 23 < t.hour then .error .hour
  else if 59 < t.minute then .error .minute
  else if 59 < t.second then .error .second
  else .ok ()

/-- The time in hours, minutes and seconds; a fraction follows if there is one. -/
def text (t : TimeOfDay) : String :=
  padded 2 t.hour ++ ":" ++ padded 2 t.minute ++ ":" ++ padded 2 t.second
    ++ if t.micro = 0 then "" else "." ++ padded 6 t.micro

end TimeOfDay

namespace Date

def text (d : Date) : String :=
  padded 4 d.year.toNat ++ "-" ++ padded 2 d.month ++ "-" ++ padded 2 d.day

def numbers (d : Date) : String := s!"{d.year}, {d.month}, {d.day}"

end Date

/-- A span of minutes in days and seconds, of which only the days are negative. -/
def spanText (minutes : Int) : String :=
  let days := minutes / 1440
  let seconds := minutes % 1440 * 60
  let parts := (if days = 0 then [] else [s!"days={days}"])
    ++ (if seconds = 0 then [] else [s!"seconds={seconds}"])
  "datetime.timedelta(" ++ (if parts.isEmpty then "0" else Text.join ", " parts) ++ ")"

def MomentError.message : MomentError → String
  | .year n => s!"year {n} is out of range"
  | .month => "month must be in 1..12"
  | .day => "day is out of range for month"
  | .hour => "hour must be in 0..23"
  | .minute => "minute must be in 0..59"
  | .second => "second must be in 0..59"
  | .offset minutes =>
    "offset must be a timedelta strictly between -timedelta(hours=24) and timedelta(hours=24), not "
      ++ spanText minutes ++ "."

namespace Moment

/-- A distance from universal time; none at all is `Z`. -/
def offsetText (minutes : Int) : String :=
  if minutes = 0 then "Z"
  else (if minutes < 0 then "-" else "+") ++ padded 2 (minutes.natAbs / 60) ++ ":"
    ++ padded 2 (minutes.natAbs % 60)

/-- The moment as text: a `T` stands between the date and the time. -/
def text : Moment → String
  | .day d => d.text
  | .time d t offset => d.text ++ "T" ++ t.text ++ (offset.map offsetText).getD ""

/-- The numbers of a time, separated by commas; seconds and what follows are left out when
zero. -/
def timeNumbers (t : TimeOfDay) : String :=
  s!"{t.hour}, {t.minute}"
    ++ (if t.second = 0 && t.micro = 0 then "" else s!", {t.second}")
    ++ (if t.micro = 0 then "" else s!", {t.micro}")

def quoted : Moment → String
  | .day d => "datetime.date(" ++ d.numbers ++ ")"
  | .time d t offset =>
    let zone (minutes : Int) : String :=
      ", tzinfo=datetime.timezone" ++ if minutes = 0 then ".utc" else "(" ++ spanText minutes ++ ")"
    "datetime.datetime(" ++ d.numbers ++ ", " ++ timeNumbers t ++ (offset.map zone).getD "" ++ ")"

def typeName : Moment → String
  | .day _ => "date"
  | .time .. => "datetime"

/-- The moment in microseconds since 1970, by universal time if its distance from it is known. -/
def micros : Moment → Int
  | .day d => d.dayNumber * 86400 * 1000000
  | .time d t offset =>
    ((d.dayNumber * 1440 + t.hour * 60 + t.minute - offset.getD 0) * 60 + t.second) * 1000000
      + t.micro

/-- Whether two moments are the same: dates with dates, and times with times of which both or
neither have a known distance from universal time. -/
def same (a b : Moment) : Bool :=
  match a, b with
  | .day _, .day _ => a.micros == b.micros
  | .time _ _ x, .time _ _ y => x.isSome == y.isSome && a.micros == b.micros
  | _, _ => false

end Moment

end ChatEngine.Calendar
