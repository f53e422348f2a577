import Chronicle.Proofs.Schema.Projection
import Mathlib.Tactic.MkIffOfInductiveProp

/-!
# Well-formed attributes

The attributes of a kind, written out: the names, the type and the range of every value. Validation
gives such attributes and leaves them as they are, whatever their order. It treats each name by
itself, and it does not distinguish the spellings of a label.

## Main definitions

* `Attributes.IsDemon`, `Attributes.IsRecord`, `Kind.WellFormed` — the attributes of a kind.
* `Kind.ValidationProjects` — what validation does with the attributes of a kind.

## Main statements

* `Attributes.isDemon_iff_meets`, `Attributes.isRecord_iff_meets` — the attributes of a kind are
  those that meet its schema.
* `Schema.get?_congr_of_checkFields` — a checked value depends only on the value of its name.
* `Schema.checkFields_set_label` — the case of the letters of a label does not matter.
* `Kind.validation_projects` — validation is a projection.
-/

namespace Chronicle

/-! ## Well-formed attributes -/

namespace Attributes

variable {a : Attributes} {name : String}

/-- Whether a name has null. -/
def HasNull (a : Attributes) (name : String) : Prop := a.get? name = some .null

/-- Whether a name has an integer of which a property holds. -/
def HasInteger (a : Attributes) (name : String) (P : Int → Prop) : Prop :=
  ∃ n, a.get? name = some (.int n) ∧ P n

/-- Whether a name has a text of which a property holds. -/
def HasText (a : Attributes) (name : String) (P : String → Prop) : Prop :=
  ∃ s, a.get? name = some (.text s) ∧ P s

/-- The attributes of a demon. -/
@[mk_iff] structure IsDemon (a : Attributes) : Prop where
  names : a.names.Perm ["name", "position", "requirement", "video", "thumbnail", "verifier",
    "publisher", "level_id", "difficulty"]
  name : a.HasText "name" fun s => 1 ≤ s.length
  position : a.HasInteger "position" fun n => n = -1 ∨ 1 ≤ n
  requirement : a.HasInteger "requirement" fun n => 0 ≤ n ∧ n ≤ 100
  video : a.HasNull "video" ∨ a.HasText "video" fun s => s.length ≤ 200
  thumbnail : a.HasText "thumbnail" fun _ => True
  verifier : a.HasInteger "verifier" fun _ => True
  publisher : a.HasInteger "publisher" fun _ => True
  level_id : a.HasNull "level_id" ∨ a.HasInteger "level_id" fun n => 1 ≤ n
  difficulty : a.HasText "difficulty" (· ∈ difficulties)

/-- The attributes of a record. -/
@[mk_iff] structure IsRecord (a : Attributes) : Prop where
  names : a.names.Perm ["progress", "video", "status", "player", "demon", "enjoyment"]
  progress : a.HasInteger "progress" fun n => 0 ≤ n ∧ n ≤ 100
  video : a.HasNull "video" ∨ a.HasText "video" fun s => s.length ≤ 200
  status : a.HasText "status" (· ∈ statuses)
  player : a.HasInteger "player" fun _ => True
  demon : a.HasInteger "demon" fun _ => True
  enjoyment : a.HasNull "enjoyment" ∨ a.HasInteger "enjoyment" fun n => 0 ≤ n ∧ n ≤ 10

/-- Whether a name has a normal value of a type. -/
def HasNormal (a : Attributes) (name : String) (type : FieldType) : Prop :=
  ∃ v, a.get? name = some v ∧ type.Normal v

theorem hasNormal_integer {least most : Option Int} : a.HasNormal name (.integer least most) ↔
    a.HasInteger name fun n => (∀ bound ∈ least, bound ≤ n) ∧ ∀ bound ∈ most, n ≤ bound := by
  constructor
  · rintro ⟨_, hv, n, rfl, hn⟩
    exact ⟨n, hv, hn⟩
  · rintro ⟨n, hv, hn⟩
    exact ⟨_, hv, n, rfl, hn⟩

theorem hasNormal_position {unranked : Int} : a.HasNormal name (.position unranked) ↔
    a.HasInteger name fun n => n = unranked ∨ 1 ≤ n := by
  constructor
  · rintro ⟨_, hv, n, rfl, hn⟩
    exact ⟨n, hv, hn⟩
  · rintro ⟨n, hv, hn⟩
    exact ⟨_, hv, n, rfl, hn⟩

theorem hasNormal_text {least : Nat} {most : Option Nat} : a.HasNormal name (.text least most) ↔
    a.HasText name fun s => least ≤ s.length ∧ ∀ bound ∈ most, s.length ≤ bound := by
  constructor
  · rintro ⟨_, hv, s, rfl, hs⟩
    exact ⟨s, hv, hs⟩
  · rintro ⟨s, hv, hs⟩
    exact ⟨_, hv, s, rfl, hs⟩

theorem hasNormal_label {labels : List String} : a.HasNormal name (.label labels) ↔
    a.HasText name (· ∈ labels) := by
  constructor
  · rintro ⟨_, hv, s, hs, rfl⟩
    exact ⟨s, hv, hs⟩
  · rintro ⟨s, hv, hs⟩
    exact ⟨_, hv, s, hs, rfl⟩

theorem hasNormal_nullable {type : FieldType} : a.HasNormal name (.nullable type) ↔
    a.HasNull name ∨ a.HasNormal name type := by
  constructor
  · rintro ⟨_, hv, rfl | hnormal⟩
    · exact .inl hv
    · exact .inr ⟨_, hv, hnormal⟩
  · rintro (hv | ⟨v, hv, hnormal⟩)
    · exact ⟨_, hv, .inl rfl⟩
    · exact ⟨v, hv, .inr hnormal⟩

theorem meets_iff {s : Schema} : s.Meets a ↔
    a.names.Perm (s.fields.map (·.name)) ∧ ∀ f ∈ s.fields, a.HasNormal f.name f.type :=
  ⟨fun h => ⟨h.names, h.values⟩, fun h => ⟨h.1, h.2⟩⟩

/-- The attributes of a demon meet its schema, -/
theorem isDemon_iff_meets : a.IsDemon ↔ demonSchema.Meets a := by
  rw [isDemon_iff, meets_iff]
  simp [demonSchema, hasNormal_integer, hasNormal_position, hasNormal_text, hasNormal_label,
    hasNormal_nullable, unrankedPosition]

/-- and those of a record its own. -/
theorem isRecord_iff_meets : a.IsRecord ↔ recordSchema.Meets a := by
  rw [isRecord_iff, meets_iff]
  simp [recordSchema, hasNormal_integer, hasNormal_text, hasNormal_label, hasNormal_nullable]

end Attributes

/-! ## What a checked value depends on -/

theorem Field.read_congr {f : Field} {x y : Attributes} (h : x.get? f.name = y.get? f.name) :
    f.read x = f.read y := by
  rw [read, read, h]

namespace Schema

variable {s : Schema} {x y a b : Attributes}

/-- A set that is accepted has, for each field, what the field reads, and no other name. -/
theorem get?_of_checkFields (hs : s.Regular) (h : s.checkFields x = .ok a) :
    (∀ f ∈ s.fields, ∃ v, f.read x = .ok v ∧ a.get? f.name = some v) ∧
      ∀ name ∉ s.fields.map (·.name), a.get? name = none := by
  unfold checkFields at h
  split at h
  · obtain ⟨g, hread, hconverted⟩ := converted_eq ‹_›
    cases h
    rw [hconverted]
    refine ⟨fun f hf => ⟨g f, hread f hf, lookup_map_names hs.distinct g hf⟩, fun name hname => ?_⟩
    exact Attributes.lookup_eq_none (by simpa using hname)
  · cases h

/-- The value of a name after a check is determined by the value of the name before it. -/
theorem get?_congr_of_checkFields (hs : s.Regular) (hx : s.checkFields x = .ok a)
    (hy : s.checkFields y = .ok b) {name : String} (h : x.get? name = y.get? name) :
    a.get? name = b.get? name := by
  obtain ⟨hfields, hothers⟩ := get?_of_checkFields hs hx
  obtain ⟨hfields', hothers'⟩ := get?_of_checkFields hs hy
  by_cases hname : name ∈ s.fields.map (·.name)
  · obtain ⟨f, hf, rfl⟩ := List.mem_map.1 hname
    obtain ⟨v, hv, hget⟩ := hfields f hf
    obtain ⟨w, hw, hget'⟩ := hfields' f hf
    rw [Field.read_congr h, hw] at hv
    rw [hget, hget', Except.ok.inj hv]
  · rw [hothers name hname, hothers' name hname]

/-- Sets with the same names of which every field reads the same are checked alike. -/
theorem checkFields_congr (hnames : x.names = y.names)
    (hread : ∀ f ∈ s.fields, f.read x = f.read y) : s.checkFields x = s.checkFields y := by
  have hviolations : s.violations x = s.violations y := by
    rw [violations, violations, extras, extras, hnames]
    refine congrArg (· ++ _) (List.filterMap_congr fun f hf => ?_)
    rw [violation?, violation?, hread f hf]
  have hconverted : s.converted x = s.converted y :=
    congrArg Attributes.mk (List.filterMap_congr fun f hf => by rw [hread f hf])
  rw [checkFields, checkFields, hviolations, hconverted]

/-- Whether a name, if it is a field, is one with labels. -/
def IsLabel (s : Schema) (name : String) : Prop :=
  ∀ f ∈ s.fields, f.name = name → ∃ labels, f.type = .label labels

/-- The case of the letters of a label does not matter. -/
theorem checkFields_set_label {name spelling other : String} (hlabel : s.IsLabel name)
    (hx : x.get? name = some (.text spelling)) (hcase : other.toLower = spelling.toLower) :
    s.checkFields (x.set name (.text other)) = s.checkFields x := by
  have hmem : name ∈ x.names := by
    by_contra hnot
    rw [Attributes.get?, Attributes.lookup_eq_none hnot] at hx
    cases hx
  refine checkFields_congr (Attributes.names_set_of_mem hmem _) fun f hf => ?_
  by_cases hname : f.name = name
  · obtain ⟨labels, htype⟩ := hlabel f hf hname
    subst hname
    rw [Field.read, Field.read, Attributes.get?_set_self, hx, htype]
    simp only [FieldType.convert, Conversion.label, hcase]
  · exact Field.read_congr (Attributes.get?_set_of_ne _ _ hname)

end Schema

/-! ## Validation -/

namespace Kind

variable {kind : Kind}

/-- Whether attributes are well-formed for a kind. -/
def WellFormed : Kind → Attributes → Prop
  | demon, a => a.IsDemon
  | record, a => a.IsRecord

theorem wellFormed_iff_meets {a : Attributes} : kind.WellFormed a ↔ kind.spec.schema.Meets a := by
  cases kind with
  | demon => exact Attributes.isDemon_iff_meets
  | record => exact Attributes.isRecord_iff_meets

theorem isLabel (kind : Kind) {name : String} (h : name = "difficulty" ∨ name = "status") :
    kind.spec.schema.IsLabel name := by
  rcases h with rfl | rfl <;> cases kind <;>
    simp [Schema.IsLabel, spec, demonSpec, demonSchema, recordSpec, recordSchema]

/-- What validation does with the attributes of a kind. -/
structure ValidationProjects (kind : Kind) : Prop where
  /-- What it gives is well-formed. -/
  wellFormed : ∀ (input : Value) (a : Attributes), kind.validate input = .ok a → kind.WellFormed a
  /-- It gives what is well-formed back with the same entries. -/
  fixed : ∀ a : Attributes, kind.WellFormed a →
    ∃ b, kind.validate a.toValue = .ok b ∧ b.entries.Perm a.entries
  idempotent : ∀ (input : Value) (a : Attributes), kind.validate input = .ok a →
    kind.validate a.toValue = .ok a
  /-- The value of a name is determined by the value that the name had before. -/
  byName : ∀ (x y a b : Attributes) (name : String), kind.validate x.toValue = .ok a →
    kind.validate y.toValue = .ok b → x.get? name = y.get? name → a.get? name = b.get? name
  /-- A label may be spelled in either case of its letters. -/
  anyCase : ∀ (x : Attributes) (name spelling other : String),
    name = "difficulty" ∨ name = "status" → x.get? name = some (.text spelling) →
    other.toLower = spelling.toLower →
    kind.validate (x.set name (.text other)).toValue = kind.validate x.toValue

/-- Validation is a projection onto the well-formed attributes, name by name, for which the case of
the letters of a label does not matter. -/
theorem validation_projects (kind : Kind) : kind.ValidationProjects where
  wellFormed input a h := wellFormed_iff_meets.2 (normal_of_validate h).meets
  fixed a h := by
    have hmeets := wellFormed_iff_meets.1 h
    refine ⟨kind.spec.schema.inOrder a, ?_, hmeets.inOrder_perm kind.schema_regular⟩
    rw [validate, hmeets.check_eq kind.schema_lowercase]
    rfl
  idempotent input a h := normal_iff_validate.1 (normal_of_validate h)
  byName x y a b name hx hy :=
    Schema.get?_congr_of_checkFields kind.schema_regular (mapError_eq_ok_iff.1 hx)
      (mapError_eq_ok_iff.1 hy)
  anyCase x name spelling other hname hx hcase :=
    congrArg (Except.mapError _) (Schema.checkFields_set_label (kind.isLabel hname) hx hcase)

end Kind

end Chronicle
