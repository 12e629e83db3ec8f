import ChatEngine.Answer
import ChatEngine.Plugin.Service
import ChatEngine.Schedule

/-!
# Plugins and actions

Plugins: named sets of actions. Commands answer messages addressed to the bot, hear actions answer
overheard messages, and scheduled actions run by the clock.
-/
namespace ChatEngine

/-- A command or hear action. -/
structure Action (σ : Type) where
  isMatch : IncomingMessage → Except Fault Bool := fun _ => .ok true
  answer : Services (Host σ) → IncomingMessage → Effect (Host σ) (Option Answer) :=
    fun _ _ => pure none
  usage : String := ""
  description : String := ""
  hidden : Bool := false

/-- An action that runs on a schedule. The help and the scheduler tell the schedule in words, so an
action has a schedule that can be told. -/
structure ScheduledAction (σ : Type) where
  schedule : Schedule := {}
  run : Sender (Host σ) → Effect (Host σ) Unit
  description : String := ""
  hidden : Bool := false
  wording : String
  worded : schedule.text = .ok wording := by rfl

/-- A named set of actions, with the services it was given. -/
structure Plugin (σ : Type) where
  name : String
  commands : List (Action σ) := []
  hearActions : List (Action σ) := []
  scheduledActions : List (ScheduledAction σ) := []
  namespaced : Bool := false
  services : Services (Host σ) := {}

namespace Plugin

variable {σ : Type}

def shownUsage (p : Plugin σ) (usage : String) : String :=
  if p.namespaced && !usage.isEmpty then p.name ++ " " ++ usage else usage

end Plugin

def describe (fmt : String) (args : List Value) : Except Fault String :=
  (Text.format fmt (.positional args)).mapError Text.FormatError.fault

/-- A scheduled action, which needs something to run and a schedule that can be told. -/
def ScheduledAction.build? {σ : Type} (schedule : Schedule)
    (run : Option (Sender (Host σ) → Effect (Host σ) Unit)) (description : String)
    (hidden : Bool) : Except Fault (ScheduledAction σ) :=
  match run with
  | none => .error (.invalidValue "A scheduled action needs an action function")
  | some run => match worded : schedule.text with
    | .ok wording => .ok { schedule, run, description, hidden, wording, worded }
    | .error cause => .error (.invalidValue cause.message)

end ChatEngine
