import ChatEngine.Entries
import ChatEngine.Value

/-!
# Log entries

Structured log entries: an event name, a level and named values.
-/
namespace ChatEngine

/-- How grave a log entry is. -/
inductive LogLevel where
  | debug
  | info
  | warning
  | error
  | critical
  deriving DecidableEq, Repr

namespace LogLevel

/-- The levels from the least to the most grave. -/
def all : List LogLevel := [.debug, .info, .warning, .error, .critical]

def text : LogLevel → String
  | .debug => "debug"
  | .info => "info"
  | .warning => "warning"
  | .error => "error"
  | .critical => "critical"

def ofText? (name : String) : Option LogLevel := all.find? fun l => l.text == name

def rank : LogLevel → Nat
  | .debug => 0
  | .info => 1
  | .warning => 2
  | .error => 3
  | .critical => 4

end LogLevel

/-- An entry of the log. -/
structure LogEntry where
  level : LogLevel
  event : String
  fields : List (String × Value) := []

/-- The log, latest entry first. -/
abbrev Log := List LogEntry

/-- The entries at or above a level, in the order of their writing. -/
def Log.atLeast (log : Log) (level : LogLevel) : List LogEntry :=
  (log.filter fun e => level.rank ≤ e.level.rank).reverse

end ChatEngine
