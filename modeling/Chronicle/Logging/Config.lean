import Chronicle.Logging.Line

/-!
# Log configuration

Which lines come out, and in which form.

## Main definitions

* `thresholdOf` — the least severity that a level name lets through.
* `LogConfig`, `LogConfig.shows` — a configuration and the lines it lets through.
-/

namespace Chronicle

/-- The level names in capitals, with the least severity each lets through. -/
def thresholds : List (String × Nat) := [
  ("CRITICAL", 50), ("FATAL", 50), ("ERROR", 40), ("WARNING", 30), ("WARN", 30), ("INFO", 20),
  ("DEBUG", 10), ("NOTSET", 0)]

/-- The capital of a letter. Besides those of ASCII, the dotless i and the long s have an ASCII
capital; no other capital occurs in a level name. -/
def capital (c : Char) : Char :=
  if c = 'ı' then 'I' else if c = 'ſ' then 'S' else c.toUpper

/-- The least severity that a level name lets through. A name of no level counts as `INFO`. -/
def thresholdOf (name : String) : Nat := (thresholds.lookup (name.map capital)).getD 20

structure LogConfig where
  threshold : Nat
  json : Bool
  deriving DecidableEq, Repr

namespace LogConfig

/-- The configuration of a level name and a form. -/
def ofNames (level : String) (json : Bool) : LogConfig := ⟨thresholdOf level, json⟩

/-- Whether a line comes out. -/
def shows (config : LogConfig) (line : LogLine) : Bool := config.threshold ≤ line.level.severity

end LogConfig

end Chronicle
