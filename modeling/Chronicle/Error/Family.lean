import Chronicle.Attributes
import Chronicle.Error

/-!
# The family of failures

The failures that this library itself defines form a family of classes: one common class, and below
it one class for each cause that a caller may want to tell from the others. A failure of a class is
built from parts, which its wording names.

## Main definitions

* `ErrorClass` — the classes, with `parents` and `parts`.
* `ErrorClass.build` — a failure of a class from given parts.
-/

namespace Chronicle

/-- The classes of the library's own failures. -/
inductive ErrorClass where
  /-- The class above all others, built from anything. -/
  | common
  | missingActor
  | unknownEntity
  | untracked
  | constraint
  | notInitialized
  deriving DecidableEq, Repr

/-- A failure that was built from given parts. -/
structure BuiltError where
  message : String
  /-- The parts by which it is reported besides its message. -/
  details : List (String × Value) := []

namespace ErrorClass

def all : List ErrorClass :=
  [common, missingActor, unknownEntity, untracked, constraint, notInitialized]

def name : ErrorClass → String
  | common => "DemonlistAuditError"
  | missingActor => "MissingActorError"
  | unknownEntity => "UnknownEntityError"
  | untracked => "UnknownAttributeError"
  | constraint => "ConstraintViolationError"
  | notInitialized => "DatabaseNotInitializedError"

def ofName? (name : String) : Option ErrorClass := all.find? (·.name == name)

/-- The names of the classes above a class, nearest first. -/
def parents : ErrorClass → List String
  | common => ["Exception"]
  | notInitialized => [common.name, "RuntimeError", "Exception"]
  | _ => [common.name, "Exception"]

def parts : ErrorClass → List String
  | common | notInitialized => []
  | missingActor => ["operation"]
  | unknownEntity => ["kind", "entity_id"]
  | untracked => ["kind", "attribute"]
  | constraint => ["kind", "errors"]

/-! ## Reports of violations -/

/-- The items of a list, the names of an object or the characters of a text. -/
def items : Value → Except Error (List Value)
  | .list items => .ok items
  | .object fields => .ok (fields.map fun f => .text f.1)
  | .text s => .ok (s.toList.map fun c => .text c.toString)
  | v => .error (.noParts v)

/-- The parts by which a violation is reported. -/
def reported : List String := ["type", "loc", "msg"]

/-- The path of a reported violation; without one the path is empty. -/
def path (violation : Value) : Except Error (List String) :=
  match Attributes.ofValue? violation with
  | none => .error (.noAttribute violation.typeName "get")
  | some fields => do
    match fields.get? "loc" with
    | none => return []
    | some path => return (← items path).map Value.shown

/-- A reported violation without anything else. -/
def trimmed : Value → Value
  | .object fields => .object (fields.filter fun f => reported.contains f.1)
  | v => v

/-! ## Building -/

/-- The message of the common class: a single part itself, or more parts between brackets. -/
def commonMessage : List Value → String
  | [] => ""
  | [only] => only.shown
  | all => "(" ++ ", ".intercalate (all.map Value.written) ++ ")"

/-- A failure of a class from as many parts as it has. -/
def assemble (c : ErrorClass) (given : List Value) : Except Error BuiltError :=
  let worded (e : Error) : Except Error BuiltError :=
    .ok ⟨e.message.getD "", c.parts.zip given⟩
  match c, given with
  | missingActor, [operation] => worded (.missingActor operation.shown)
  | unknownEntity, [kind, id] =>
    .ok ⟨Error.absence kind.shown id.shown, c.parts.zip given⟩
  | untracked, [kind, name] => worded (.untracked kind.shown (some name.shown))
  | constraint, [kind, errors] => do
    let violations ← items errors
    let paths ← violations.mapM path
    return ⟨Error.refusal kind.shown paths,
      c.parts.zip [kind, .list (violations.map trimmed)]⟩
  | notInitialized, _ => worded .notInitialized
  | _, _ => .ok ⟨commonMessage given, []⟩

/-- A failure of a class from given parts. Every class but the common one has a fixed number. -/
def build (c : ErrorClass) (given : List Value) : Except Error BuiltError :=
  let operation := c.name ++ ".__init__()"
  if c = common then c.assemble given
  else if c.parts.length < given.length then
    .error (.tooManyArguments operation (c.parts.length + 1) (given.length + 1))
  else if given.length < c.parts.length then
    .error (.missingArguments operation (c.parts.drop given.length))
  else c.assemble given

end ErrorClass

end Chronicle
