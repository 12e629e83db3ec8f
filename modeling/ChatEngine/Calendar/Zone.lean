import ChatEngine.Calendar.ClockChanges
import ChatEngine.Calendar.Date

/-!
# Time zones

Time zones: the distance of the clocks from universal time, which changes at certain instants.
Instants are seconds of universal time since 1970. Where clocks go back a wall clock time occurs
twice, and where they go forward some do not occur at all; a local time says by which clock it is
meant.
-/
namespace ChatEngine.Calendar

/-- When a zone's clocks are an hour ahead. -/
inductive SummerRule where
  | none
  /-- From the second Sunday of March to the first of November, changing at two in the morning;
  since 2007. -/
  | northAmerican
  /-- From the last Sunday of March to the last of October, changing at one in universal time;
  since 1996. -/
  | european
  deriving DecidableEq, Repr

/-- A time zone. -/
structure Zone where
  /-- The distance from universal time before the first change, in seconds. -/
  initial : Int
  /-- The changes that follow no rule: the instant of each and the distance from then on. -/
  changes : List (Int × Int) := []
  /-- The distance in winter while the rule holds. -/
  standard : Int := initial
  /-- The rule that holds after these changes. -/
  summer : SummerRule := .none

/-- The first Sunday on or after a day. -/
def sundayFrom (day : Int) : Int := day + (6 - weekdayOf day : Nat)

def SummerRule.changes (rule : SummerRule) (standard year : Int) : List (Int × Int) :=
  match rule with
  | .none => []
  | .northAmerican =>
    if year < 2007 then []
    else
      let start := sundayFrom (Date.dayNumber ⟨year, 3, 8⟩)
      let stop := sundayFrom (Date.dayNumber ⟨year, 11, 1⟩)
      [(start * 86400 + 7200 - standard, standard + 3600),
       (stop * 86400 + 3600 - standard, standard)]
  | .european =>
    if year < 1996 then []
    else
      let start := sundayFrom (Date.dayNumber ⟨year, 3, 25⟩)
      let stop := sundayFrom (Date.dayNumber ⟨year, 10, 25⟩)
      [(start * 86400 + 3600, standard + 3600), (stop * 86400 + 3600, standard)]

/-- A wall clock time of a place. -/
structure LocalTime where
  wall : Int
  /-- Whether it is meant by the later of the two clocks around a change. -/
  again : Bool := false
  deriving DecidableEq, Repr

/-- A change of the clocks. -/
structure ClockChange where
  instant : Int
  before : Int
  offset : Int
  deriving DecidableEq, Repr

namespace ClockChange

/-- Changes in order, the first of which ends the distance `before`. -/
def chain : (before : Int) → List (Int × Int) → List ClockChange
  | _, [] => []
  | before, (instant, offset) :: rest => ⟨instant, before, offset⟩ :: chain offset rest

/-- The wall clock time from which the change has happened, as seen by one of the two clocks: by
the earlier one the later of both readings, and by the later one the earlier reading. -/
def wallStart (c : ClockChange) (again : Bool) : Int :=
  c.instant + if again then min c.before c.offset else max c.before c.offset

/-- Whether an instant after the change shows a time that the clocks had shown before it. -/
def repeats (c : ClockChange) (instant : Int) : Bool := c.before - c.offset > instant - c.instant

end ClockChange

namespace Zone

def utc : Zone := { initial := 0 }

/-- The zone's changes; those by rule only in the years next to the given one. -/
def changesAround (z : Zone) (year : Int) : List ClockChange :=
  ClockChange.chain z.initial
    (z.changes ++ [year - 1, year, year + 1].flatMap (z.summer.changes z.standard))

def lastChange? (z : Zone) (near : Int) (happened : ClockChange → Bool) : Option ClockChange :=
  ((z.changesAround (Date.ofDayNumber (dayOf near)).year).filter happened).getLast?

def localOf (z : Zone) (instant : Int) : LocalTime :=
  match z.lastChange? instant fun c => c.instant ≤ instant with
  | some c => ⟨instant + c.offset, c.repeats instant⟩
  | none => ⟨instant + z.initial, false⟩

def offsetOf (z : Zone) (t : LocalTime) : Int :=
  ((z.lastChange? t.wall fun c => c.wallStart t.again ≤ t.wall).map (·.offset)).getD z.initial

def instantOf (z : Zone) (t : LocalTime) : Int := t.wall - z.offsetOf t

def localText (z : Zone) (t : LocalTime) : String :=
  let offset := z.offsetOf t
  let size := offset.natAbs
  let seconds := if size % 60 = 0 then "" else ":" ++ padded 2 (size % 60)
  wallText t.wall ++ (if offset < 0 then "-" else "+") ++ padded 2 (size / 3600) ++ ":"
    ++ padded 2 (size / 60 % 60) ++ seconds

def named : List (String × Zone) :=
  [("UTC", utc),
   ("America/Los_Angeles", ⟨-28378, losAngelesChanges, -28800, .northAmerican⟩),
   ("Europe/Paris", ⟨561, parisChanges, 3600, .european⟩),
   ("Asia/Tokyo", ⟨33539, tokyoChanges, 32400, .none⟩),
   ("Asia/Kolkata", ⟨21208, kolkataChanges, 19800, .none⟩)]

def ofName? (name : String) : Option Zone := named.lookup name

end Zone

end ChatEngine.Calendar
