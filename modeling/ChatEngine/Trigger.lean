import ChatEngine.Calendar.Zone
import ChatEngine.Schedule

/-!
# Triggers

Triggers: when the action of a schedule fires. A weekday fires weekly at its time of day, an
interval with a time of day fires at that wall clock time, and any other interval fires after a
fixed number of seconds. Reckoning ends with the calendar, which has the years from 1 to 9999.
-/
namespace ChatEngine

open Calendar

/-- How the next firing is found. -/
inductive Trigger where
  /-- Every week on a day (Monday is zero), at a wall clock time. -/
  | weekly (weekday : Nat) (hour minute : Nat)
  /-- Every so many days at a wall clock time. -/
  | daily (days : Nat) (hour minute : Nat)
  /-- Every so many seconds, the first time so much later on the wall clock. -/
  | interval (seconds : Nat)
  deriving DecidableEq, Repr

/-- Why a trigger cannot be made, or has no next firing. -/
inductive TriggerError where
  | schedule (cause : ScheduleError)
  | tooManyDays (days : Nat)
  /-- An interval has so many days that they are not even told. -/
  | daysBeyondRange
  /-- A local time would lie outside the calendar. -/
  | dateRange
  /-- An instant would lie outside the calendar, in a certain year. -/
  | yearRange (year : Int)
  /-- The search for a weekday started in the last second of the calendar. -/
  | lastSecond

def TriggerError.message : TriggerError → Except Decimal.IntegerError String
  | .schedule cause => cause.message
  | .tooManyDays days => .ok s!"days={days}; must have magnitude <= 999999999"
  | .daysBeyondRange => .ok "Python int too large to convert to C int"
  | .dateRange => .ok "date value out of range"
  | .yearRange year => .ok ("year " ++ Decimal.intText year ++ " is out of range")
  | .lastSecond => .ok "list index out of range"

namespace Trigger

def ofSchedule (s : Schedule) : Except ScheduleError Trigger := do
  s.validate
  let at_ ← s.hourMinute
  match s.day? with
  | some day =>
    let (hour, minute) := at_.getD (0, 0)
    return .weekly (weekdays.idxOf day) hour minute
  | none =>
    let some unit := IntervalUnit.ofText? s.unit | throw (.unit s.unit)
    match at_ with
    | none => return .interval (s.interval.toNat * unit.length)
    | some (hour, minute) => return .daily (s.interval.toNat * (unit.length / 86400)) hour minute

def maxDays : Nat := 999999999

/-- Checks that an interval has no more days than are reckoned with. -/
def checkDays (days : Nat) : Except TriggerError Unit :=
  if days ≤ maxDays then .ok ()
  else if days < Nat.pow 2 31 then .error (.tooManyDays days)
  else .error .daysBeyondRange

def isReckoned (day : Int) : Bool :=
  let year := (Date.ofDayNumber day).year
  1 ≤ year && year ≤ 9999

def addSeconds (t : LocalTime) (seconds : Int) : Except TriggerError LocalTime :=
  let wall := t.wall + seconds
  if isReckoned (dayOf wall) then .ok ⟨wall, false⟩ else .error .dateRange

def addDays (day : Int) (days : Nat) : Except TriggerError Int := do
  checkDays days
  if isReckoned (day + days) then return day + days else throw .dateRange

def readClock (zone : Zone) (instant : Int) : Except TriggerError LocalTime :=
  let t := zone.localOf instant
  if !isReckoned (dayOf instant) then .error (.yearRange (Date.ofDayNumber (dayOf instant)).year)
  else if !isReckoned (dayOf t.wall) then .error .dateRange
  else .ok t

/-- The first firing of an interval. -/
def firstFire (now : LocalTime) (seconds : Nat) : Except TriggerError LocalTime := do
  checkDays (seconds / 86400)
  addSeconds now seconds

/-- The trigger of a schedule, whose first firing lies in the calendar if it fires at intervals. -/
def start (s : Schedule) (now : LocalTime) : Except TriggerError Trigger := do
  let trigger ← (ofSchedule s).mapError .schedule
  if let .interval seconds := trigger then
    discard (firstFire now seconds)
  return trigger

/-- What of a wall clock time is still to be fitted to a weekly trigger: the day and all after it,
the hour and all after it, and so on. -/
inductive Unfitted where
  | day
  | hour
  | minute
  | second
  deriving DecidableEq, Repr

/-- Where a search for a weekly firing goes on. -/
inductive Step where
  | search (unfitted : Unfitted) (t : LocalTime)
  | found (t : LocalTime)
  | ended

/-- The first second of the year 1970, before which nothing fires weekly. -/
def firstWeek : Int := 0

def lastWall : Int := Date.dayNumber ⟨10000, 1, 1⟩ * 86400 - 1

/-- Goes on to the next whole day, hour or minute. The time in between passes on a steady clock, so
that a change of the clocks moves where it ends. -/
def skip (zone : Zone) (size : Int) (unfitted : Unfitted) (t : LocalTime) :
    Except TriggerError Step := do
  let next := (t.wall / size + 1) * size
  if lastWall < next then
    if t.wall = lastWall then throw .lastSecond else return .ended
  return .search unfitted (← readClock zone (zone.instantOf t + (next - t.wall)))

def skipDay (zone : Zone) (t : LocalTime) : Except TriggerError Step := skip zone 86400 .day t

/-- The next whole hour; at the end of a day the next day. -/
def skipHour (zone : Zone) (t : LocalTime) : Except TriggerError Step :=
  if t.wall / 3600 % 24 = 23 then skipDay zone t else skip zone 3600 .hour t

/-- The next whole minute; at the end of an hour the next hour. -/
def skipMinute (zone : Zone) (t : LocalTime) : Except TriggerError Step :=
  if t.wall / 60 % 60 = 59 then skipHour zone t else skip zone 60 .minute t

/-- Fits one part of a wall clock time to a weekly trigger. An hour or minute ahead is set on the
clock; one that has passed makes the search go on in the next day or hour. -/
def fit (zone : Zone) (weekday hour minute : Nat) (t : LocalTime) :
    Unfitted → Except TriggerError Step
  | .day =>
    if t.wall < firstWeek then return .search .day { t with wall := firstWeek }
    else if weekdayOf (dayOf t.wall) = weekday then return .search .hour t
    else skipDay zone t
  | .hour =>
    let shown := t.wall / 3600 % 24
    if shown = hour then return .search .minute t
    else if shown < hour then
      return .search .minute { t with wall := dayOf t.wall * 86400 + hour * 3600 }
    else skipDay zone t
  | .minute =>
    let shown := t.wall / 60 % 60
    if shown = minute then return .search .second t
    else if shown < minute then
      return .search .second { t with wall := t.wall / 3600 * 3600 + minute * 60 }
    else skipHour zone t
  | .second => if t.wall % 60 = 0 then return .found t else skipMinute zone t

/-- The first firing of a weekly trigger that a search comes to within so many steps. -/
def search (zone : Zone) (weekday hour minute : Nat) :
    (steps : Nat) → Unfitted → LocalTime → Except TriggerError (Option LocalTime)
  | 0, _, _ => return none
  | steps + 1, unfitted, t => do
    match ← fit zone weekday hour minute t unfitted with
    | .search unfitted t => search zone weekday hour minute steps unfitted t
    | .found t => return some t
    | .ended => return none

/-- More steps than a search takes: it passes at most eight days, one of them by hours or
minutes. -/
def searchSteps : Nat := 200

/-- The first firing on one of the days, counted in steps of `days`, whose clock shows the time.
A clock that goes forward over it shows a later time, from whose day the steps go on. -/
def dailyFrom (zone : Zone) (days hour minute : Nat) :
    (tries : Nat) → Int → Except TriggerError LocalTime
  | 0, day => return ⟨wallTime day hour minute, false⟩
  | tries + 1, day => do
    let meant := wallTime day hour minute
    let shown ← readClock zone (zone.instantOf ⟨meant, false⟩)
    if shown.wall % 86400 = meant % 86400 then return shown
    else dailyFrom zone days hour minute tries (← addDays (dayOf shown.wall) days)

/-- The next firing after the previous one, if there was one, as seen at `now`. Only a weekly
trigger can be out of firings. -/
def next (t : Trigger) (zone : Zone) (previous : Option LocalTime) (now : LocalTime) :
    Except TriggerError (Option LocalTime) :=
  match t with
  | .weekly weekday hour minute =>
    let start := match previous with
      | some last => if now.wall < last.wall then now else ⟨last.wall + 1, false⟩
      | none => now
    search zone weekday hour minute searchSteps .day start
  | .daily days hour minute => do
    let day ← match previous with
      | some last => addDays (dayOf last.wall) days
      | none => pure (dayOf now.wall)
    return some (← dailyFrom zone days hour minute 8 day)
  | .interval seconds => do
    let instant ← match previous with
      | some last => pure (zone.instantOf last + seconds)
      | none => pure (zone.instantOf (← firstFire now seconds))
    return some (← readClock zone instant)

/-- The first `count` firings; after each the clock stands one second later. A trigger that is out
of firings ends the list. -/
def fires (t : Trigger) (zone : Zone) :
    (count : Nat) → Option LocalTime → LocalTime → Except TriggerError (List (Option LocalTime))
  | 0, _, _ => return []
  | count + 1, previous, now => do
    match ← t.next zone previous now with
    | none => return [none]
    | some fire => return some fire :: (← fires t zone count fire (← addSeconds fire 1))

end Trigger

end ChatEngine
