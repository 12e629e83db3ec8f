import ChatEngine.Plugin.Registry
import ChatEngine.Trigger

/-!
# Scheduled actions at work

Running scheduled actions. Starting turns every schedule into a job; the first that cannot be used
ends the start, and so does a job that is there already. An action that fails is logged, and the
scheduler goes on.
-/
namespace ChatEngine

variable {σ : Type}

/-- The scheduler of a bot: its actions, the jobs made of them, and whether it runs. -/
structure Scheduler (σ : Type) where
  actions : List (RegisteredSchedule σ)
  jobs : List (RegisteredSchedule σ) := []
  running : Bool := false

namespace Scheduler

/-- Why a start ends early. -/
inductive StartError where
  | trigger (cause : TriggerError)
  | jobExists (id : String)

def StartError.fault : StartError → Fault
  | .trigger cause => cause.fault
  | .jobExists id => ⟨.jobConflict, s!"Job identifier ({id}) conflicts with an existing job"⟩

/-- What the clock is taken to show at a start, the beginning of 2026: it decides only whether an
interval of thousands of years still ends within the calendar. -/
def startTime : Calendar.LocalTime :=
  ⟨Calendar.wallTime (Calendar.Date.dayNumber ⟨2026, 1, 1⟩) 0 0, false⟩

def registered (entry : RegisteredSchedule σ) : StateM (Host σ) Unit :=
  Host.record .info "scheduled_action_registered"
    [("plugin", .str entry.plugin.name), ("schedule", .str entry.action.wording),
     ("description", .str entry.action.description)]

/-- Makes jobs of the actions in order, up to the first whose schedule cannot be used. -/
def register : List (RegisteredSchedule σ) → List (RegisteredSchedule σ) →
    StateM (Host σ) (List (RegisteredSchedule σ) × Option StartError)
  | [], jobs => return (jobs, none)
  | entry :: rest, jobs =>
    match Trigger.start entry.action.schedule startTime with
    | .error e => return (jobs, some (.trigger e))
    | .ok _ => do
      registered entry
      register rest (jobs ++ [entry])

/-- Starts the scheduler; without jobs it does not run. While it runs every action has its job, and
the first one stands in the way of another start. -/
def start (s : Scheduler σ) : StateM (Host σ) (Scheduler σ × Option StartError) := do
  if s.running then
    return (s, s.actions.head?.map fun entry => .jobExists entry.jobId)
  let (jobs, failure) ← register s.actions s.jobs
  match failure with
  | some e => return ({ s with jobs }, some e)
  | none => return ({ s with jobs, running := !jobs.isEmpty }, none)

def shutdown (s : Scheduler σ) : Scheduler σ := { s with running := false }

def fire (sender : Sender (Host σ)) (entry : RegisteredSchedule σ) : StateM (Host σ) Unit := do
  if let .error _ ← (entry.action.run sender).attempt then
    Host.record .error "scheduled_action_failed"
      [("plugin", .str entry.plugin.name), ("schedule", .str entry.action.wording)]

end Scheduler

end ChatEngine
