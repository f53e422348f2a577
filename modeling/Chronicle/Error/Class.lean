import Chronicle.Error.Family

/-!
# Classes of failures

Every failure is reported under the name of its class. The failures of the library's own family have
classes of their own; all others share the general classes of their causes.

## Main definitions

* `EngineFault.className` — the class of a fault of an engine.
* `Error.className` — the class of a failure.
-/

namespace Chronicle

/-- The name of the class of a fault of an engine. -/
def EngineFault.className : EngineFault → String
  | malformedAddress | notAnAddress _ | mixedHosts | badPorts _ | unpairedPorts | missingHost
  | missingPort | serverOfFile _ => "ArgumentError"
  | notAnInteger .. | tooManyParts | notATruthValue _ => "ValueError"
  | unknownPlugin .. => "NoSuchModuleError"
  | missingPackage _ => "ModuleNotFoundError"
  | repeatedOption | notASize _ | unusedArguments | compoundEcho _ => "TypeError"
  | waitingDriver _ => "InvalidRequestError"
  | unknownEcho _ => "KeyError"

/-- The name of the class of a failure. A failure of the caller's own may be of any class. -/
def Error.className : Error → String
  | missingActor _ => ErrorClass.missingActor.name
  | unknownEntity .. => ErrorClass.unknownEntity.name
  | untracked .. => ErrorClass.untracked.name
  | constraint .. => ErrorClass.constraint.name
  | notInitialized => ErrorClass.notInitialized.name
  | invalid _ => "ValidationError"
  | notAKind _ | unranked | emptyInterval | differentEntities .. => "ValueError"
  | incomparable | mixedAwareness | unknownColumn .. | notColumns .. | repeatedArgument ..
  | unknownArgument .. | missingArguments .. | tooManyArguments .. | noParts _ | notText _ =>
    "TypeError"
  | noAttribute .. => "AttributeError"
  | outOfRange => "OverflowError"
  | readOnly => "RuntimeError"
  | engine fault => fault.className
  | raised _ => "Exception"

end Chronicle
