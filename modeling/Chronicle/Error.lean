import Chronicle.Database.Fault
import Chronicle.Schema.Violation
import Chronicle.Value.Text

/-!
# Failures

The causes for which an operation fails, and the one function that puts them into words.

## Main definitions

* `Error` — the causes.
* `Error.message` — the wording; a cause that is reported by its parts alone has none.
-/

namespace Chronicle

/-- Why an operation fails. -/
inductive Error where
  /-- A tracked write without the actor it is attributed to. -/
  | missingActor (operation : String)
  /-- An entity that does not exist. -/
  | unknownEntity (kind : String) (id : Int)
  /-- An attribute whose changes are not recorded. -/
  | untracked (kind : String) (name : Option String)
  /-- Attributes that their kind's schema refuses. -/
  | constraint (kind : String) (violations : List Violation)
  /-- Fields from which a record of this library cannot be built. -/
  | invalid (violations : List Violation)
  /-- A value that names no kind. -/
  | notAKind (found : Value)
  /-- A value that is not among the ranked labels of its attribute. -/
  | unranked
  /-- Two values that have no order. -/
  | incomparable
  /-- A moment with an offset compared with one without. -/
  | mixedAwareness
  /-- A moment that leaves the years 1 to 9999. -/
  | outOfRange
  /-- An interval that ends no later than it starts. -/
  | emptyInterval
  /-- Two states of different entities compared as one entity's. -/
  | differentEntities (kind : String) (id : Int) (otherKind : String) (otherId : Int)
  /-- A write through a read-only snapshot. -/
  | readOnly
  | unknownColumn (column rowType : String)
  /-- A row type built from something else than named values. -/
  | notColumns (rowType : String) (found : Value)
  /-- A named argument that takes the place of one already given. -/
  | repeatedArgument (operation name : String)
  /-- A named argument that an operation does not know. -/
  | unknownArgument (operation name : String)
  /-- An operation without some of the arguments it needs. -/
  | missingArguments (operation : String) (names : List String)
  /-- An operation with more arguments than it takes. -/
  | tooManyArguments (operation : String) (taken given : Nat)
  /-- A value without parts where a list of parts is needed. -/
  | noParts (found : Value)
  /-- Something of a type asked for what the type does not have. -/
  | noAttribute (typeName name : String)
  /-- A value put behind a text that is no text itself. -/
  | notText (found : Value)
  /-- The storage used before it was set up. -/
  | notInitialized
  /-- An engine that cannot be set up. -/
  | engine (fault : EngineFault)
  /-- A failure of the caller's own inside a block. -/
  | raised (message : String)
  deriving Inhabited

namespace Error

/-- The fields of a refused attribute set, by their paths; a report without any names none. -/
def refusedFields (paths : List (List String)) : String :=
  let fields := ", ".intercalate (paths.map ".".intercalate)
  if fields.isEmpty then "unknown field" else fields

/-- The wording of a refused attribute set, by the paths of its fields. -/
def refusal (kind : String) (paths : List (List String)) : String :=
  "Invalid " ++ kind ++ " attributes: " ++ refusedFields paths

/-- The wording of an entity that does not exist. -/
def absence (kind id : String) : String := kind ++ " " ++ id ++ " not found"

/-- Quoted names, with commas and a last "and" between them. -/
def enumeration (names : List String) : String :=
  match (names.map fun name => "'" ++ name ++ "'").reverse with
  | [] => ""
  | [only] => only
  | [second, first] => first ++ " and " ++ second
  | last :: others => ", ".intercalate others.reverse ++ ", and " ++ last

/-- A number of arguments given by their places. -/
def positional (n : Nat) : String :=
  toString n ++ if n = 1 then " positional argument" else " positional arguments"

/-- A past number. -/
def were (n : Nat) : String := toString n ++ if n = 1 then " was" else " were"

/-- The wording of missing arguments. -/
def absentArguments (operation : String) (names : List String) : String :=
  operation ++ " missing " ++ toString names.length ++ " required positional argument"
    ++ (if names.length = 1 then ": " else "s: ") ++ enumeration names

/-- The wording of a failure. -/
def message : Error → Option String
  | missingActor operation =>
    some ("Tracked " ++ operation ++ " requires an actor, none was supplied")
  | unknownEntity kind id => some (absence kind (toString id))
  | untracked kind name =>
    some ("'" ++ name.getD "None" ++ "' is not a tracked attribute of " ++ kind)
  | constraint kind violations => some (refusal kind (violations.map (·.path)))
  | invalid _ => none
  | notAKind found => some (found.written ++ " is not a valid EntityKind")
  | unranked => some "tuple.index(x): x not in tuple"
  | incomparable => none
  | mixedAwareness => some "can't compare offset-naive and offset-aware datetimes"
  | outOfRange => some "date value out of range"
  | emptyInterval => some "from_ts must be earlier than to_ts"
  | differentEntities kind id otherKind otherId =>
    some ("Cannot diff " ++ kind ++ " " ++ toString id ++ " against " ++ otherKind ++ " "
      ++ toString otherId)
  | readOnly => some "Cannot write through a read-only snapshot"
  | unknownColumn column rowType =>
    some (Text.quoted column ++ " is an invalid keyword argument for " ++ rowType)
  | notColumns .. => none
  | repeatedArgument operation name =>
    some (operation ++ " got multiple values for argument '" ++ name ++ "'")
  | unknownArgument operation name =>
    some (operation ++ " got an unexpected keyword argument '" ++ name ++ "'")
  | missingArguments operation names => some (absentArguments operation names)
  | tooManyArguments operation taken given =>
    some (operation ++ " takes " ++ positional taken ++ " but " ++ were given ++ " given")
  | noParts found => some ("'" ++ found.typeName ++ "' object is not iterable")
  | noAttribute typeName name =>
    some ("'" ++ typeName ++ "' object has no attribute '" ++ name ++ "'")
  | notText found => some ("can only concatenate str (not \"" ++ found.typeName ++ "\") to str")
  | notInitialized =>
    some ("Database has not been initialized. "
      ++ "Call init_database() (or enter main.lifespan()) first.")
  | engine fault => some fault.message
  | raised message => some message

end Error

end Chronicle
