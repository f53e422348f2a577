import Chronicle.Kind
import Chronicle.Schema.Checked
import Chronicle.Time.Written

/-!
# Entities, actors and log entries

The records of this library and how each is read from named values: every field is converted, all
violations are listed in the order of the fields, and names that are no field are ignored.

## Main definitions

* `Actor` — whom a write is attributed to.
* `Entity` — an entity with its attributes.
* `Modification` — one update: the previous values of the attributes it changed.
* `Addition` — the creation of an entity.
* `Modification.carries` — whether an update recorded a usable previous value.
-/

namespace Chronicle

/-! ## Conversions of fields -/

namespace Conversion

/-- A text or null. -/
def optionalText : Value → Except Refusal (Option String)
  | .null => .ok none
  | v => some <$> text v

/-- A kind by its exact name. -/
def kind (v : Value) : Except Refusal Kind :=
  match Kind.ofValue v with
  | .ok k => .ok k
  | .error _ => .error (.notALabel (Kind.all.map Kind.name))

/-- A set of named values. -/
def attributes (v : Value) : Except Refusal Attributes :=
  match Attributes.ofValue? v with
  | some a => .ok a
  | none => .error .notAnObject

/-- A moment: its written form, or a counted time stamp. -/
def moment : Value → Except Refusal Moment
  | .text s => match Moment.ofWritten? s with
    | some m => .ok m
    | none => .error .notAMoment
  | .int n => Moment.ofUnix n
  | .float x => Moment.ofUnixDouble x
  | _ => .error .notAMoment

end Conversion

/-! ## Records -/

/-- Whom a write is attributed to. -/
structure Actor where
  id : Int
  name : Option String
  deriving DecidableEq, Repr

/-- An actor from named values. -/
def Actor.read (fields : Attributes) : Checked Actor :=
  Actor.mk <$> fields.required "id" Conversion.integer
    <*> fields.optional "name" none Conversion.optionalText

/-- An entity in one state. -/
structure Entity where
  id : Int
  kind : Kind
  attributes : Attributes

namespace Entity

/-- An entity from named values. -/
def read (fields : Attributes) : Checked Entity :=
  Entity.mk <$> fields.required "id" Conversion.integer
    <*> fields.required "kind" Conversion.kind
    <*> fields.required "attributes" Conversion.attributes

/-- The value of an attribute; an absent one reads as null. -/
def value (e : Entity) (name : String) : Value := e.attributes.get name

end Entity

/-- One update of an entity. `diffs` holds, for every attribute that the update changed, the value
before it; an attribute that is absent was not changed. -/
structure Modification where
  kind : Kind
  entityId : Int
  actorId : Int
  timestamp : Moment
  diffs : Attributes

namespace Modification

/-- A modification from named values. -/
def read (fields : Attributes) : Checked Modification :=
  Modification.mk <$> fields.required "kind" Conversion.kind
    <*> fields.required "entity_id" Conversion.integer
    <*> fields.required "actor_id" Conversion.integer
    <*> fields.required "timestamp" Conversion.moment
    <*> fields.optional "diffs" .empty Conversion.attributes

/-- Whether the update changed an attribute. -/
def changed (m : Modification) (name : String) : Bool := m.diffs.has name

/-- Whether the update recorded a previous value of an attribute that is not the sentinel. -/
def carries (m : Modification) (name : String) (sentinel : Option Value) : Bool :=
  match m.diffs.get? name, sentinel with
  | none, _ => false
  | some _, none => true
  | some v, some s => !v.same s

theorem carries_none (m : Modification) (name : String) : m.carries name none = m.changed name := by
  unfold carries changed Attributes.has
  split <;> simp_all

theorem changed_of_carries {m : Modification} {name : String} {sentinel : Option Value}
    (h : m.carries name sentinel = true) : m.changed name = true := by
  unfold carries at h
  unfold changed Attributes.has
  split at h <;> simp_all

end Modification

/-- The creation of an entity. -/
structure Addition where
  kind : Kind
  entityId : Int
  actorId : Int
  timestamp : Moment
  deriving DecidableEq

/-- An addition from named values. -/
def Addition.read (fields : Attributes) : Checked Addition :=
  Addition.mk <$> fields.required "kind" Conversion.kind
    <*> fields.required "entity_id" Conversion.integer
    <*> fields.required "actor_id" Conversion.integer
    <*> fields.required "timestamp" Conversion.moment

/-- Reads a record, failing with all its violations. -/
def Checked.orFail {α : Type} (c : Checked α) : Except Error α := Except.mapError Error.invalid c

end Chronicle
