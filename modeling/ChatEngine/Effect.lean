import ChatEngine.Fault
import ChatEngine.Log
import ChatEngine.Lru
import ChatEngine.Message
import ChatEngine.Metrics.Registry

/-!
# Effects on a host

Effects. The engine runs over a host: the outside world of some type, and the engine's own
metrics, log and cache of user profiles. An effect changes the host and may end with a fault; what
it changed before the fault stays changed.
-/
namespace ChatEngine

/-- A computation over a state that may end with a fault. -/
abbrev Effect (σ α : Type) := ExceptT Fault (StateM σ) α

namespace Effect

variable {σ α : Type}

def attempt (act : Effect σ α) : StateM σ (Except Fault α) := act.run

def of (f : σ → Except Fault α × σ) : Effect σ α := ExceptT.mk f

def ofResult (r : Except Fault α) : Effect σ α := of fun s => (r, s)

def change (f : σ → σ) : Effect σ Unit := ExceptT.lift (modify f)

def lift (act : StateM σ α) : Effect σ α := ExceptT.lift act

end Effect

/-- A world that has a clock, in seconds. -/
class Clocked (σ : Type) where
  now : σ → Float

/-- The outside world together with what the engine keeps. -/
structure Host (σ : Type) where
  world : σ
  metrics : Metrics := {}
  log : Log := []
  profiles : Option (Lru String UserProfile) := none

namespace Host

variable {σ α : Type}

def outside (act : Effect σ α) : Effect (Host σ) α := Effect.of fun h =>
  let (result, world) := act.run h.world
  (result, { h with world })

def record (level : LogLevel) (event : String) (fields : List (String × Value) := []) :
    StateM (Host σ) Unit :=
  modify fun h => { h with log := ⟨level, event, fields⟩ :: h.log }

def count (id : CounterId) (labels : List (String × String) := []) : StateM (Host σ) Unit :=
  modify fun h => { h with metrics := h.metrics.count id labels }

def timed [Clocked σ] (id : HistogramId) (labels : List (String × String))
    (act : StateM (Host σ) α) : StateM (Host σ) α := do
  let start := Clocked.now (← get).world
  let result ← act
  modify fun h => { h with metrics := h.metrics.observe id labels (Clocked.now h.world - start) }
  return result

end Host

end ChatEngine
