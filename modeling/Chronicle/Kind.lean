import Chronicle.Error
import Chronicle.Schema.Basic
import Chronicle.Value.Order

/-!
# Kinds of tracked entity

There are two kinds: demons, the ranked levels of a list, and records, the results of players on
them. What is known about a kind is data: its schema, the attributes whose changes are recorded, the
values that mean "no value", and the closed sets of labels that sort by rank.

## Main definitions

* `Kind`, `Kind.ofValue` — the kinds and the kind that a value names.
* `KindSpec`, `Kind.spec` — what is known about a kind.
* `Kind.validate` — checking a full attribute set.
* `rankIn` — the rank of a value in a list of labels.
-/

namespace Chronicle

/-- The kinds of tracked entity. -/
inductive Kind where
  | demon
  | record
  deriving DecidableEq, Repr, Inhabited

namespace Kind

def all : List Kind := [demon, record]

def name : Kind → String
  | demon => "demon"
  | record => "record"

def ofName? (name : String) : Option Kind := all.find? (·.name == name)

def ofValue (v : Value) : Except Error Kind :=
  match v with
  | .text s => match ofName? s with
    | some kind => .ok kind
    | none => .error (.notAKind v)
  | _ => .error (.notAKind v)

end Kind

/-- What is known about a kind. -/
structure KindSpec where
  /-- The fields of the attribute set. -/
  schema : Schema
  /-- The attributes whose changes are recorded. -/
  tracked : List String
  /-- The values of attributes that mean "no value". -/
  sentinels : List (String × Value)
  /-- The labels of attributes that sort by rank, in rank order. -/
  rankings : List (String × List String)

/-- The rank of a value: its place among the labels. -/
def rankIn (labels : List String) (v : Value) : Except Error Nat :=
  match labels.findIdx? fun label => Value.same (.text label) v with
  | some i => .ok i
  | none => .error .unranked

/-- The rank of a value as a value. -/
def rankOf (labels : List String) (v : Value) : Except Error Value := do
  return .int (← rankIn labels v)

/-! ## The two kinds -/

/-- The position of a demon that has none. -/
def unrankedPosition : Int := -1

/-- The tiers of difficulty, hardest first. -/
def difficulties : List String :=
  ["silent", "legendary", "extreme", "mythical", "insane", "hard", "medium", "easy", "beginner"]

/-- The states of a record's review. -/
def statuses : List String := ["submitted", "approved", "rejected", "under_consideration"]

def demonSchema : Schema where
  name := "DemonAttributes"
  fields := [
    { name := "name", type := .text 1 none },
    { name := "position", type := .position unrankedPosition },
    { name := "requirement", type := .integer (some 0) (some 100) },
    { name := "video", type := .nullable (.text 0 (some 200)), default := some .null },
    { name := "thumbnail", type := .text 0 none, default := some (.text "") },
    { name := "verifier", type := .integer none none },
    { name := "publisher", type := .integer none none },
    { name := "level_id", type := .nullable (.integer (some 1) none), default := some .null },
    { name := "difficulty", type := .label difficulties }]

def recordSchema : Schema where
  name := "RecordAttributes"
  fields := [
    { name := "progress", type := .integer (some 0) (some 100) },
    { name := "video", type := .nullable (.text 0 (some 200)), default := some .null },
    { name := "status", type := .label statuses, default := some (.text "submitted") },
    { name := "player", type := .integer none none },
    { name := "demon", type := .integer none none },
    { name := "enjoyment", type := .nullable (.integer (some 0) (some 10)), default := some .null }]

/-- What is known about demons. The in-game id is no tracked attribute. -/
def demonSpec : KindSpec where
  schema := demonSchema
  tracked := ["name", "position", "requirement", "video", "thumbnail", "verifier", "publisher",
    "difficulty"]
  sentinels := [("position", .int unrankedPosition)]
  rankings := [("difficulty", difficulties)]

/-- What is known about records. -/
def recordSpec : KindSpec where
  schema := recordSchema
  tracked := ["progress", "video", "status", "player", "demon", "enjoyment"]
  sentinels := []
  rankings := [("status", statuses)]

namespace Kind

/-- What is known about a kind. -/
def spec : Kind → KindSpec
  | demon => demonSpec
  | record => recordSpec

/-- The attributes of a kind whose changes are recorded. -/
def tracked (kind : Kind) : List String := kind.spec.tracked

/-- The value of an attribute that means "no value", if there is one. -/
def sentinel? (kind : Kind) (name : String) : Option Value := kind.spec.sentinels.lookup name

/-- The labels of an attribute that sorts by rank. -/
def ranking? (kind : Kind) (name : String) : Option (List String) := kind.spec.rankings.lookup name

/-- The name of an attribute whose changes are recorded; any other fails. -/
def requireTracked (kind : Kind) (name : Option String) : Except Error String :=
  match name.filter kind.tracked.contains with
  | some name => .ok name
  | none => .error (.untracked kind.name name)

/-- Checks a full attribute set of a kind; the result has every field in its normal form. -/
def validate (kind : Kind) (input : Value) : Except Error Attributes :=
  (kind.spec.schema.check input).mapError (.constraint kind.name)

end Kind

end Chronicle
