import Chronicle.Attributes
import Chronicle.Schema.Conversion

/-!
# Schemas

A schema is a list of typed fields. Checking an input against it converts each field, fills in
defaults, and refuses names that are no field; it reports every violation, those of the fields first
and in their order, then the names that are too many.

## Main definitions

* `FieldType`, `Field`, `Schema` — schemas as data.
* `Schema.check` — the one interpreter of a schema.
-/

namespace Chronicle

/-- The type of an attribute. -/
inductive FieldType where
  | integer (least most : Option Int)
  | position (unranked : Int)
  | text (least : Nat) (most : Option Nat)
  | label (labels : List String)
  | nullable (type : FieldType)
  deriving Repr

def FieldType.convert : FieldType → Value → Except Refusal Value
  | integer least most, v => .int <$> Conversion.integerBetween least most v
  | position unranked, v => .int <$> Conversion.position unranked v
  | text least most, v => .text <$> Conversion.textBetween least most v
  | label labels, v => .text <$> Conversion.label labels v
  | nullable _, .null => .ok .null
  | nullable type, v => type.convert v

/-- A field of a schema. Without a default it is required. -/
structure Field where
  name : String
  type : FieldType
  default : Option Value := none

def Field.read (f : Field) (input : Attributes) : Except Refusal Value :=
  match input.get? f.name, f.default with
  | some v, _ => f.type.convert v
  | none, some v => .ok v
  | none, none => .error .missing

/-- A named list of fields. -/
structure Schema where
  name : String
  fields : List Field

namespace Schema

def hasField (s : Schema) (name : String) : Bool := s.fields.any (·.name == name)

/-- The violation of a field by an input, if there is one. -/
def violation? (input : Attributes) (f : Field) : Option Violation :=
  match f.read input with
  | .ok _ => none
  | .error reason => some ⟨[f.name], reason⟩

/-- The names of an input that are no field, as violations. -/
def extras (s : Schema) (input : Attributes) : List Violation :=
  (input.names.filter fun name => !s.hasField name).map fun name => ⟨[name], .extra⟩

def violations (s : Schema) (input : Attributes) : List Violation :=
  s.fields.filterMap (violation? input) ++ s.extras input

/-- The converted fields of an input, in the order of the schema. -/
def converted (s : Schema) (input : Attributes) : Attributes :=
  ⟨s.fields.filterMap fun f => (f.read input).toOption.map (f.name, ·)⟩

/-- Checks a named set of values against a schema. -/
def checkFields (s : Schema) (input : Attributes) : Except (List Violation) Attributes :=
  if (s.violations input).isEmpty then .ok (s.converted input) else .error (s.violations input)

/-- Checks a value against a schema. Only an object can meet one. -/
def check (s : Schema) (input : Value) : Except (List Violation) Attributes :=
  match Attributes.ofValue? input with
  | some fields => s.checkFields fields
  | none => .error [⟨[], .notAModel s.name⟩]

end Schema

end Chronicle
