import Chronicle.Error
import Chronicle.Logging.Config

/-!
# Loggers

A logger of a configuration writes lines through methods, each at a level; several methods may write
at one level. A method that writes below the level of the configuration does nothing. The event and
the logger itself are arguments of a method, so no field can be called like them, and a line that
comes out is handed on under the name of its method.

## Main definitions

* `Logger.methods` — the methods and their levels.
* `Logger.call` — the line that a call of a method writes.
-/

namespace Chronicle

namespace Logger

/-- The methods, by name. -/
def methods : List (String × Level) := [
  ("debug", .debug), ("info", .info), ("msg", .info), ("warning", .warning), ("warn", .warning),
  ("error", .error), ("exception", .error), ("critical", .critical), ("fatal", .critical)]

/-- The name of the type of loggers that let through lines from a severity on. -/
def typeName (threshold : Nat) : String :=
  "BoundLoggerFilteringAt" ++
    match threshold with
    | 50 => "Critical"
    | 40 => "Error"
    | 30 => "Warning"
    | 20 => "Info"
    | 10 => "Debug"
    | _ => "Notset"

/-- The operation behind a method, by whether its lines come out. -/
def operationName (method : String) (shown : Bool) : String :=
  if method = "exception" then "exception()"
  else if shown then "_make_filtering_bound_logger.<locals>.make_method.<locals>.meth()"
  else "_nop()"

/-- The operation that hands a line on. -/
def forwarding : String := "BoundLoggerBase._proxy_to_logger()"

/-- Fails for a field that is called like an argument. -/
def noRepeats (operation : String) (arguments : List String) (fields : List (String × Value)) :
    Except Error Unit :=
  match fields.find? fun f => arguments.contains f.1 with
  | some f => .error (.repeatedArgument operation f.1)
  | none => .ok ()

/-- The line that a call of a method writes. -/
def call (config : LogConfig) (method : String) (event : Value) (fields : List (String × Value)) :
    Except Error LogLine :=
  match methods.lookup method with
  | none => .error (.noAttribute (typeName config.threshold) method)
  | some level => do
    let line : LogLine := { level, event, fields }
    noRepeats (operationName method (config.shows line)) ["event", "self"] fields
    if config.shows line then noRepeats forwarding ["method_name"] fields
    return line

end Logger

end Chronicle
