import Chronicle.Kind
import Chronicle.Proofs.Attributes
import Chronicle.Proofs.Except
import Mathlib.Data.List.Basic

/-!
# Normal attributes

A checked attribute set is in normal form: it has the fields of its schema and no others, and every
value is one that its type converts to. Such values are null, integers and texts, for which equality
of values is equality.

## Main definitions

* `Value.IsPlain` — null, integers and texts.
* `Value.Differs` — values that are not the same.
* `FieldType.Normal`, `Schema.Normal` — normal values of a type, normal sets of a schema.
* `Kind.Normal` — normal attributes of a kind.
* `Kind.typeOf?` — the type of an attribute.

## Main statements

* `Value.same_iff_eq` — plain values are the same if and only if they are equal.
* `Kind.normal_of_validate` — validation gives normal attributes.
* `Kind.Normal.get_normal` — the value of a tracked attribute is normal for the attribute's type.
-/

namespace Chronicle

/-! ## Plain values -/

namespace Value

/-- The values a checked attribute can have: null, integers and texts. -/
def IsPlain : Value → Prop
  | null | int _ | text _ => True
  | bool _ | float _ | list _ | object _ => False

theorem same_iff_eq {v w : Value} (hv : v.IsPlain) (hw : w.IsPlain) :
    v.same w = true ↔ v = w := by
  cases v <;> cases w <;> simp_all [IsPlain, same, sameNumber, number?, Number.same_ofInt]

/-- Whether two values are not the same. -/
def Differs (v w : Value) : Prop := v.same w = false

instance : DecidableRel Differs := fun v w => inferInstanceAs (Decidable (v.same w = false))

theorem differs_iff_ne {v w : Value} (hv : v.IsPlain) (hw : w.IsPlain) : v.Differs w ↔ v ≠ w := by
  rw [Differs, ← Bool.not_eq_true]
  exact not_congr (same_iff_eq hv hw)

end Value

/-! ## Conversions -/

namespace Conversion

theorem bounds_of_integerBetween {least most : Option Int} {v : Value} {n : Int}
    (h : integerBetween least most v = .ok n) :
    (∀ bound ∈ least, bound ≤ n) ∧ ∀ bound ∈ most, n ≤ bound := by
  obtain ⟨m, -, h⟩ := bind_eq_ok_iff.1 h
  cases least <;> cases most <;> simp at h ⊢ <;> grind

theorem bound_of_position {unranked : Int} {v : Value} {n : Int}
    (h : position unranked v = .ok n) : n = unranked ∨ 1 ≤ n := by
  obtain ⟨m, -, h⟩ := bind_eq_ok_iff.1 h
  simp at h
  grind

theorem bounds_of_textBetween {least : Nat} {most : Option Nat} {v : Value} {s : String}
    (h : textBetween least most v = .ok s) :
    least ≤ s.length ∧ ∀ bound ∈ most, s.length ≤ bound := by
  obtain ⟨t, -, h⟩ := bind_eq_ok_iff.1 h
  cases most <;> simp at h ⊢ <;> grind

theorem mem_of_label {labels : List String} {v : Value} {s : String}
    (h : label labels v = .ok s) : s ∈ labels := by
  unfold label at h
  split at h
  · split at h
    · cases h
      exact List.contains_iff_mem.1 ‹_›
    · cases h
  · cases h

end Conversion

/-! ## Normal values of a type -/

namespace FieldType

/-- The normal values of a type. -/
def Normal : FieldType → Value → Prop
  | integer least most, v =>
    ∃ n, v = .int n ∧ (∀ bound ∈ least, bound ≤ n) ∧ ∀ bound ∈ most, n ≤ bound
  | position unranked, v => ∃ n, v = .int n ∧ (n = unranked ∨ 1 ≤ n)
  | text least most, v => ∃ s, v = .text s ∧ least ≤ s.length ∧ ∀ bound ∈ most, s.length ≤ bound
  | label labels, v => ∃ s ∈ labels, v = .text s
  | nullable type, v => v = .null ∨ type.Normal v

theorem Normal.isPlain {type : FieldType} {v : Value} (h : type.Normal v) : v.IsPlain := by
  induction type with
  | integer | position | text => obtain ⟨_, rfl, _⟩ := h; trivial
  | label => obtain ⟨_, _, rfl⟩ := h; trivial
  | nullable type ih =>
    rcases h with rfl | h
    · trivial
    · exact ih h

/-- Converting to a type gives a normal value of the type. -/
theorem normal_of_convert {type : FieldType} {v w : Value} (h : type.convert v = .ok w) :
    type.Normal w := by
  induction type with
  | integer =>
    obtain ⟨n, hn, rfl⟩ := map_eq_ok_iff.1 h
    exact ⟨n, rfl, Conversion.bounds_of_integerBetween hn⟩
  | position =>
    obtain ⟨n, hn, rfl⟩ := map_eq_ok_iff.1 h
    exact ⟨n, rfl, Conversion.bound_of_position hn⟩
  | text =>
    obtain ⟨s, hs, rfl⟩ := map_eq_ok_iff.1 h
    exact ⟨s, rfl, Conversion.bounds_of_textBetween hs⟩
  | label =>
    obtain ⟨s, hs, rfl⟩ := map_eq_ok_iff.1 h
    exact ⟨s, Conversion.mem_of_label hs, rfl⟩
  | nullable type ih =>
    by_cases hv : v = .null
    · subst hv
      cases h
      exact .inl rfl
    · rw [convert] at h
      · exact .inr (ih h)
      · exact hv

end FieldType

/-! ## Normal attribute sets -/

namespace Schema

/-- A set with the fields of a schema and no others, and with normal values. -/
structure Normal (s : Schema) (a : Attributes) : Prop where
  names : a.names = s.fields.map (·.name)
  values : ∀ f ∈ s.fields, ∃ v, a.get? f.name = some v ∧ f.type.Normal v

/-- A schema whose fields have names of their own and normal defaults. -/
structure Regular (s : Schema) : Prop where
  distinct : (s.fields.map (·.name)).Nodup
  defaults : ∀ f ∈ s.fields, ∀ v, f.default = some v → f.type.Normal v

theorem normal_of_read {f : Field} {input : Attributes} {v : Value}
    (hdefault : ∀ d, f.default = some d → f.type.Normal d) (h : f.read input = .ok v) :
    f.type.Normal v := by
  unfold Field.read at h
  split at h
  · exact FieldType.normal_of_convert h
  · cases h
    exact hdefault _ ‹_›
  · cases h

theorem lookup_map_names {fields : List Field} (hdistinct : (fields.map (·.name)).Nodup)
    (g : Field → Value) {f : Field} (hf : f ∈ fields) :
    (fields.map fun f => (f.name, g f)).lookup f.name = some (g f) := by
  induction fields with
  | nil => cases hf
  | cons head rest ih =>
    obtain ⟨hhead, hrest⟩ := List.nodup_cons.1 hdistinct
    rcases List.mem_cons.1 hf with rfl | hf
    · simp
    · have hne : (f.name == head.name) = false := by
        simpa using fun h : f.name = head.name => hhead (List.mem_map.2 ⟨f, hf, h⟩)
      rw [List.map_cons, List.lookup_cons, hne]
      exact ih hrest hf

/-- What a schema makes of a set that it does not refuse, field by field. -/
theorem converted_eq {s : Schema} {input : Attributes}
    (h : (s.violations input).isEmpty = true) :
    ∃ g : Field → Value, (∀ f ∈ s.fields, f.read input = .ok (g f)) ∧
      s.converted input = ⟨s.fields.map fun f => (f.name, g f)⟩ := by
  let g (f : Field) : Value := (f.read input).toOption.getD .null
  have hread : ∀ f ∈ s.fields, f.read input = .ok (g f) := by
    intro f hf
    have hnone : violation? input f = none := by
      simp only [violations, List.isEmpty_iff, List.append_eq_nil_iff] at h
      exact List.filterMap_eq_nil_iff.1 h.1 f hf
    unfold violation? at hnone
    split at hnone
    · rename_i v hv
      simp [g, hv, Except.toOption]
    · cases hnone
  refine ⟨g, hread, ?_⟩
  refine congrArg Attributes.mk (List.filterMap_eq_map_iff_forall_eq_some.2 fun f hf => ?_)
  simp [hread f hf, Except.toOption]

/-- Checking against a regular schema gives normal attributes. -/
theorem normal_of_check {s : Schema} (hs : s.Regular) {input : Value} {a : Attributes}
    (h : s.check input = .ok a) : s.Normal a := by
  unfold check at h
  split at h
  · unfold checkFields at h
    split at h
    · obtain ⟨g, hread, hconverted⟩ := converted_eq ‹_›
      cases h
      rw [hconverted]
      refine ⟨by simp [Attributes.names], fun f hf => ⟨g f, ?_, ?_⟩⟩
      · exact lookup_map_names hs.distinct g hf
      · exact normal_of_read (hs.defaults f hf) (hread f hf)
    · cases h
  · cases h

theorem Normal.get?_eq_none {s : Schema} {a : Attributes} (h : s.Normal a) {name : String}
    (hname : name ∉ s.fields.map (·.name)) : a.get? name = none := by
  rw [← h.names] at hname
  exact Attributes.lookup_eq_none hname

theorem Normal.distinct {s : Schema} {a : Attributes} (h : s.Normal a) (hs : s.Regular) :
    a.Distinct := by
  rw [Attributes.Distinct, h.names]
  exact hs.distinct

/-- A normal set is the values of the fields, in the order of the schema. -/
theorem Normal.eq_map {s : Schema} {a : Attributes} (h : s.Normal a) (hs : s.Regular) :
    a = ⟨s.fields.map fun f => (f.name, a.get f.name)⟩ := by
  have hentries := (h.distinct hs).entries_eq_map
  rw [h.names, List.map_map] at hentries
  exact congrArg Attributes.mk hentries

end Schema

/-! ## The attributes of a kind -/

namespace Kind

/-- The normal attributes of a kind. -/
def Normal (kind : Kind) (a : Attributes) : Prop := kind.spec.schema.Normal a

/-- The type of an attribute. -/
def typeOf? (kind : Kind) (name : String) : Option FieldType :=
  (kind.spec.schema.fields.find? (·.name == name)).map (·.type)

theorem schema_regular (kind : Kind) : kind.spec.schema.Regular := by
  cases kind with
  | demon =>
    refine ⟨by decide, ?_⟩
    simp [spec, demonSpec, demonSchema, FieldType.Normal]
  | record =>
    refine ⟨by decide, ?_⟩
    simp [spec, recordSpec, recordSchema, FieldType.Normal, statuses]

/-- Validation gives normal attributes. -/
theorem normal_of_validate {kind : Kind} {input : Value} {a : Attributes}
    (h : kind.validate input = .ok a) : kind.Normal a :=
  Schema.normal_of_check kind.schema_regular (mapError_eq_ok_iff.1 h)

/-- The tracked attributes are fields. -/
theorem exists_typeOf? {kind : Kind} {name : String} (h : name ∈ kind.tracked) :
    ∃ type, kind.typeOf? name = some type := by
  have hall : ∀ name ∈ kind.tracked, (kind.typeOf? name).isSome = true := by
    cases kind <;> simp [tracked, spec, demonSpec, recordSpec, typeOf?, demonSchema, recordSchema]
  exact Option.isSome_iff_exists.1 (hall name h)

namespace Normal

variable {kind : Kind} {a : Attributes} {name : String}

/-- The value of a field is normal for the field's type. -/
theorem get_normal {type : FieldType} (h : kind.Normal a) (htype : kind.typeOf? name = some type) :
    ∃ v, a.get? name = some v ∧ type.Normal v := by
  obtain ⟨f, hfind, rfl⟩ := Option.map_eq_some_iff.1 htype
  obtain ⟨v, hv, hnormal⟩ := h.values f (List.mem_of_find?_eq_some hfind)
  have hname : f.name = name := by simpa using List.find?_some hfind
  exact ⟨v, hname ▸ hv, hnormal⟩

theorem value_normal {type : FieldType} (h : kind.Normal a)
    (htype : kind.typeOf? name = some type) :
    type.Normal (a.get name) := by
  obtain ⟨v, hv, hnormal⟩ := h.get_normal htype
  rwa [Attributes.get, hv]

theorem get_isPlain (h : kind.Normal a) (name : String) : (a.get name).IsPlain := by
  cases htype : kind.typeOf? name with
  | some type => exact (h.value_normal htype).isPlain
  | none =>
    have hname : name ∉ kind.spec.schema.fields.map (·.name) := by
      intro hmem
      obtain ⟨f, hf, rfl⟩ := List.mem_map.1 hmem
      simpa using List.find?_eq_none.1 (Option.map_eq_none_iff.1 htype) f hf
    rw [Attributes.get, Schema.Normal.get?_eq_none h hname]
    trivial

end Normal

end Kind

end Chronicle
