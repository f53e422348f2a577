import Chronicle.Value.Basic

/-!
# Log lines

A log line names an event at a level and carries named values. Operations report the lines they
write; which of them come out, and in what form, is decided by the log configuration.

## Main definitions

* `Level`, `Level.severity` — the levels.
* `LogLine` — a line.
-/

namespace Chronicle

/-- The level of a log line. -/
inductive Level where
  | debug
  | info
  | warning
  | error
  | critical
  deriving DecidableEq, Repr

namespace Level

def severity : Level → Nat
  | debug => 10
  | info => 20
  | warning => 30
  | error => 40
  | critical => 50

def name : Level → String
  | debug => "debug"
  | info => "info"
  | warning => "warning"
  | error => "error"
  | critical => "critical"

end Level

/-- An event at a level with named values. A null event is none. -/
structure LogLine where
  level : Level
  event : Value
  fields : List (String × Value) := []

end Chronicle
