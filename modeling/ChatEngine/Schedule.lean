import ChatEngine.Decimal.Integer
import ChatEngine.Text.Quoted

/-!
# Schedules

Schedules of recurring actions: an interval of some unit, or a day of the week, with an optional
time of day. A schedule is validated before a trigger is made of it. The texts that tell an interval
are made like any text of a number, so there is none where the number has too many digits.
-/
namespace ChatEngine

/-- The units of an interval. -/
inductive IntervalUnit where
  | seconds
  | minutes
  | hours
  | days
  | weeks
  deriving DecidableEq, Repr

namespace IntervalUnit

def text : IntervalUnit → String
  | .seconds => "seconds"
  | .minutes => "minutes"
  | .hours => "hours"
  | .days => "days"
  | .weeks => "weeks"

def all : List IntervalUnit := [.seconds, .minutes, .hours, .days, .weeks]

def ofText? (name : String) : Option IntervalUnit := all.find? fun u => u.text == name

/-- The length of a unit in seconds. -/
def length : IntervalUnit → Nat
  | .seconds => 1
  | .minutes => 60
  | .hours => 3600
  | .days => 86400
  | .weeks => 604800

end IntervalUnit

def weekdays : List String :=
  ["Monday", "Tuesday", "Wednesday", "Thursday", "Friday", "Saturday", "Sunday"]

/-- When a scheduled action runs. A weekday means every week on that day, whatever the interval
and the unit say. -/
structure Schedule where
  interval : Int := 1
  unit : String := "weeks"
  weekday : Option String := none
  atTime : Option String := none
  deriving DecidableEq, Repr

/-- Why a schedule cannot be used. -/
inductive ScheduleError where
  | weekday (name : String) (schedule : Schedule)
  | unit (name : String)
  | interval (n : Int)
  | timeOfDay (time : String) (schedule : Schedule)
  | timeNeedsDays (schedule : Schedule)

namespace Schedule

def time? (s : Schedule) : Option String := s.atTime.filter (!·.isEmpty)

def day? (s : Schedule) : Option String := s.weekday.filter (!·.isEmpty)

/-- A unit's name without the plural ending. -/
def singular (unit : String) : String :=
  match unit.toList.reverse with
  | 's' :: rest => String.ofList rest.reverse
  | _ => unit

def often (s : Schedule) : Except Decimal.IntegerError String :=
  match s.day? with
  | some day => .ok ("Every " ++ day)
  | none =>
    if s.interval = 1 then .ok ("Every " ++ singular s.unit)
    else (Decimal.writeInt s.interval).map fun n => "Every " ++ n ++ " " ++ s.unit

def text (s : Schedule) : Except Decimal.IntegerError String :=
  s.often.map fun often => match s.time? with
    | some time => often ++ " at " ++ time
    | none => often

/-- The hour at the start of a time of day, and what follows its colon: one digit, a digit after
a zero or one, or two digits from 20 to 23. -/
def readHour? : List Char → Option (Nat × List Char)
  | a :: ':' :: rest => (Text.digitValue? a).map fun n => (n, rest)
  | a :: b :: ':' :: rest =>
    if a = '0' || a = '1' then
      (Text.digitValue? b).map fun n => (10 * (a.toNat - 48) + n, rest)
    else if a = '2' && '0' ≤ b && b ≤ '3' then some (20 + (b.toNat - 48), rest)
    else none
  | _ => none

/-- The minute at the end of a time of day: two digits up to 59, and at most a line end. -/
def readMinute? : List Char → Option Nat
  | [a, b] | [a, b, '\n'] =>
    if '0' ≤ a && a ≤ '5' then (Text.digitValue? b).map fun n => 10 * (a.toNat - 48) + n else none
  | _ => none

def readTime? (cs : List Char) : Option (Nat × Nat) := do
  let (hour, rest) ← readHour? cs
  let minute ← readMinute? rest
  return (hour, minute)

/-- The hour and minute of the time of day, if there is one. -/
def hourMinute (s : Schedule) : Except ScheduleError (Option (Nat × Nat)) :=
  match s.time? with
  | none => .ok none
  | some time => match readTime? time.toList with
    | some at_ => .ok (some at_)
    | none => .error (.timeOfDay time s)

/-- The unit that counts: weeks for a weekday. -/
def effectiveUnit? (s : Schedule) : Option IntervalUnit :=
  match s.day? with
  | some _ => some .weeks
  | none => IntervalUnit.ofText? s.unit

def validate (s : Schedule) : Except ScheduleError Unit := do
  match s.weekday with
  | some day => if !weekdays.contains day then throw (.weekday day s)
  | none =>
    if (IntervalUnit.ofText? s.unit).isNone then throw (.unit s.unit)
    if s.interval < 1 then throw (.interval s.interval)
  if (← s.hourMinute).isSome then
    match s.effectiveUnit? with
    | some .days | some .weeks => pure ()
    | _ => throw (.timeNeedsDays s)

end Schedule

def ScheduleError.message : ScheduleError → Except Decimal.IntegerError String
  | .weekday name s => s.text.map fun t => s!"Invalid weekday [{name}] in schedule [" ++ t ++ "]"
  | .unit name => .ok s!"Invalid interval unit [{name}]"
  | .interval n =>
    (Decimal.writeInt n).map fun n => "Interval must be at least 1 but was [" ++ n ++ "]"
  | .timeOfDay time s =>
    s.text.map fun t => s!"Invalid time of day [{time}] in schedule [" ++ t ++ "]"
  | .timeNeedsDays s =>
    s.text.map fun t => "A time of day can only be set on a schedule in days or weeks: [" ++ t ++ "]"

end ChatEngine
