import ChatEngine.Effect

/-!
# Retrying

Retrying: an operation that fails for a passing reason is tried again after a wait that doubles,
within limits, until it succeeds, fails for another reason, or runs out of attempts.
-/
namespace ChatEngine

/-- How often and for which kinds of faults an operation is tried again. -/
structure RetryPolicy where
  /-- The attempts in all; the first one is always made. -/
  maxAttempts : Int := 3
  minWait : Float := 1.0
  maxWait : Float := 30.0
  retryOn : List FaultKind := [.lostConnection, .timeout]

namespace RetryPolicy

def later (a b : Float) : Float := if a < b then b else a

/-- The wait after an attempt, counted from one: a power of two between the limits. -/
def wait (p : RetryPolicy) (attempt : Nat) : Float :=
  let doubled := Float.ofNat (Nat.pow 2 (attempt - 1))
  let capped := if p.maxWait < doubled then p.maxWait else doubled
  later (later 0.0 p.minWait) capped

def entry (attempt : Nat) (fault : Fault) (wait : Float) : LogEntry :=
  ⟨.warning, "retrying_operation",
    [("attempt", .int attempt), ("exception_type", .str fault.kind.text),
     ("exception_message", .str fault.text), ("wait_time", .float wait)]⟩

variable {σ α : Type}

def attempts (p : RetryPolicy) (pause : LogEntry → Float → StateM σ Unit)
    (act : Nat → Effect σ α) : (more attempt : Nat) → StateM σ (Except Fault α)
  | 0, attempt => (act attempt).run
  | more + 1, attempt => do
    match ← (act attempt).run with
    | .ok a => return .ok a
    | .error fault =>
      if p.retryOn.contains fault.kind then
        pause (entry attempt fault (p.wait attempt)) (p.wait attempt)
        p.attempts pause act more (attempt + 1)
      else return .error fault

/-- Runs an operation, telling it which attempt it is; `pause` notes a failed attempt and waits. -/
def run (p : RetryPolicy) (pause : LogEntry → Float → StateM σ Unit) (act : Nat → Effect σ α) :
    Effect σ α :=
  ExceptT.mk (p.attempts pause act (p.maxAttempts.toNat - 1) 1)

end RetryPolicy

end ChatEngine
