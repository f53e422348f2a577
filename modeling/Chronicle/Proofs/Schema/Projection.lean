import Chronicle.Proofs.Schema.Normal
import Mathlib.Data.List.Nodup

/-!
# Validation as a projection

Validation gives normal attributes, and it gives normal attributes back as they are: the normal
attributes are the fixed points of validation. Conversion spells labels in small letters, so this
needs labels that are spelled so.

## Main definitions

* `FieldType.Lowercase` — types whose labels are spelled in small letters.
* `Schema.Meets` — sets that are normal but for the order of the names.

## Main statements

* `FieldType.convert_of_normal`, `Schema.check_of_normal` — what is normal already stays as it is.
* `Schema.Meets.check_eq` — but for the order, which becomes that of the schema.
* `Kind.normal_iff_validate` — the fixed points of validation.
* `Kind.Normal.set` — overwriting one attribute by a value of its type.
-/

namespace Chronicle

/-! ## Conversions -/

namespace Conversion

theorem integerBetween_of_bounds {least most : Option Int} {n : Int}
    (hleast : ∀ bound ∈ least, bound ≤ n) (hmost : ∀ bound ∈ most, n ≤ bound) :
    integerBetween least most (.int n) = .ok n := by
  cases least <;> cases most <;> simp [integerBetween, integer] at hleast hmost ⊢ <;> grind

theorem position_of_bound {unranked n : Int} (h : n = unranked ∨ 1 ≤ n) :
    position unranked (.int n) = .ok n := by
  have hnot : ¬ (n ≠ unranked ∧ n < 1) := by omega
  simp [position, integer, hnot]

theorem textBetween_of_bounds {least : Nat} {most : Option Nat} {s : String}
    (hleast : least ≤ s.length) (hmost : ∀ bound ∈ most, s.length ≤ bound) :
    textBetween least most (.text s) = .ok s := by
  cases most <;> simp [textBetween, text] at hmost ⊢ <;> grind

theorem label_of_mem {labels : List String} {s : String} (hs : s ∈ labels)
    (hlower : s.toLower = s) : label labels (.text s) = .ok s := by
  rw [label, hlower, if_pos (List.contains_iff_mem.2 hs)]

end Conversion

namespace FieldType

/-- Whether the labels of a type are spelled in small letters. -/
def Lowercase : FieldType → Prop
  | label labels => ∀ s ∈ labels, s.toLower = s
  | nullable type => type.Lowercase
  | integer .. | position _ | text .. => True

/-- Converting leaves a normal value as it is. -/
theorem convert_of_normal {type : FieldType} (hlower : type.Lowercase) {v : Value}
    (h : type.Normal v) : type.convert v = .ok v := by
  induction type with
  | integer =>
    obtain ⟨n, rfl, hleast, hmost⟩ := h
    rw [convert, Conversion.integerBetween_of_bounds hleast hmost, map_ok]
  | position =>
    obtain ⟨n, rfl, hn⟩ := h
    rw [convert, Conversion.position_of_bound hn, map_ok]
  | text =>
    obtain ⟨s, rfl, hleast, hmost⟩ := h
    rw [convert, Conversion.textBetween_of_bounds hleast hmost, map_ok]
  | label =>
    obtain ⟨s, hs, rfl⟩ := h
    rw [convert, Conversion.label_of_mem hs (hlower s hs), map_ok]
  | nullable type ih =>
    by_cases hv : v = .null
    · subst hv
      rfl
    · rw [convert]
      · exact ih hlower (h.resolve_left hv)
      · exact hv

end FieldType

/-! ## Checking a schema -/

namespace Schema

variable {s : Schema} {a : Attributes}

/-- Whether all labels of a schema are spelled in small letters. -/
def Lowercase (s : Schema) : Prop := ∀ f ∈ s.fields, f.type.Lowercase

/-- A set with each field of a schema once, in any order, with no other name, and with normal
values. -/
structure Meets (s : Schema) (a : Attributes) : Prop where
  names : a.names.Perm (s.fields.map (·.name))
  values : ∀ f ∈ s.fields, ∃ v, a.get? f.name = some v ∧ f.type.Normal v

theorem Normal.meets (h : s.Normal a) : s.Meets a := ⟨.of_eq h.names, h.values⟩

/-- The values of the fields, in the order of the schema. -/
def inOrder (s : Schema) (a : Attributes) : Attributes :=
  ⟨s.fields.map fun f => (f.name, a.get f.name)⟩

namespace Meets

/-- A field reads as its value. -/
theorem read_eq (h : s.Meets a) (hlower : s.Lowercase) {f : Field} (hf : f ∈ s.fields) :
    f.read a = .ok (a.get f.name) := by
  obtain ⟨v, hv, hnormal⟩ := h.values f hf
  have hconvert := FieldType.convert_of_normal (hlower f hf) hnormal
  simp [Field.read, Attributes.get, hv, hconvert]

theorem violations_eq_nil (h : s.Meets a) (hlower : s.Lowercase) : s.violations a = [] := by
  refine List.append_eq_nil_iff.2 ⟨List.filterMap_eq_nil_iff.2 fun f hf => ?_, ?_⟩
  · rw [violation?, h.read_eq hlower hf]
  · refine List.map_eq_nil_iff.2 (List.filter_eq_nil_iff.2 fun name hname => ?_)
    obtain ⟨f, hf, rfl⟩ := List.mem_map.1 (h.names.mem_iff.1 hname)
    have hfield : s.hasField f.name = true :=
      List.any_eq_true.2 ⟨f, hf, beq_self_eq_true f.name⟩
    simp [hfield]

theorem converted_eq (h : s.Meets a) (hlower : s.Lowercase) : s.converted a = s.inOrder a := by
  refine congrArg Attributes.mk (List.filterMap_eq_map_iff_forall_eq_some.2 fun f hf => ?_)
  rw [h.read_eq hlower hf]
  rfl

/-- Checking puts the values of the fields in the order of the schema. -/
theorem check_eq (h : s.Meets a) (hlower : s.Lowercase) :
    s.check a.toValue = .ok (s.inOrder a) := by
  have hempty : (s.violations a).isEmpty = true := by rw [h.violations_eq_nil hlower]; rfl
  change s.checkFields a = .ok (s.inOrder a)
  rw [checkFields, if_pos hempty, h.converted_eq hlower]

/-- In the order of the schema, the entries are those they were. -/
theorem inOrder_perm (h : s.Meets a) (hs : s.Regular) : (s.inOrder a).entries.Perm a.entries := by
  have hdistinct : a.Distinct := h.names.nodup_iff.2 hs.distinct
  have horder := h.names.map fun name => (name, a.get name)
  rw [← hdistinct.entries_eq_map, List.map_map] at horder
  exact horder.symm

end Meets

/-- Checking leaves a normal set as it is. -/
theorem check_of_normal (hs : s.Regular) (hlower : s.Lowercase) (h : s.Normal a) :
    s.check a.toValue = .ok a := by
  rw [h.meets.check_eq hlower, inOrder, ← h.eq_map hs]

/-- A normal set with another normal value of a field. -/
theorem Normal.set (h : s.Normal a) (hs : s.Regular) {f : Field} (hf : f ∈ s.fields) {v : Value}
    (hv : f.type.Normal v) : s.Normal (a.set f.name v) where
  names := by
    have hmem : f.name ∈ a.names := h.names ▸ List.mem_map_of_mem hf
    rw [Attributes.names_set_of_mem hmem v, h.names]
  values g hg := by
    rw [Attributes.get?_set]
    split
    · rename_i hname
      obtain rfl := List.inj_on_of_nodup_map hs.distinct hg hf hname
      exact ⟨v, rfl, hv⟩
    · exact h.values g hg

end Schema

/-! ## The attributes of a kind -/

namespace Kind

theorem schema_lowercase (kind : Kind) : kind.spec.schema.Lowercase := by
  have hlabels : ∀ s ∈ difficulties ++ statuses, s.toLower = s := by decide +kernel
  obtain ⟨hdifficulties, hstatuses⟩ := List.forall_mem_append.1 hlabels
  cases kind with
  | demon =>
    simpa [Schema.Lowercase, spec, demonSpec, demonSchema, FieldType.Lowercase] using hdifficulties
  | record =>
    simpa [Schema.Lowercase, spec, recordSpec, recordSchema, FieldType.Lowercase] using hstatuses

/-- The normal attributes of a kind are those that validation gives back as they are. -/
theorem normal_iff_validate {kind : Kind} {a : Attributes} :
    kind.Normal a ↔ kind.validate a.toValue = .ok a := by
  constructor
  · intro h
    rw [validate, Schema.check_of_normal kind.schema_regular kind.schema_lowercase h]
    rfl
  · exact normal_of_validate

/-- Normal attributes with another normal value of one of them. -/
theorem Normal.set {kind : Kind} {a : Attributes} {name : String} {type : FieldType} {v : Value}
    (h : kind.Normal a) (htype : kind.typeOf? name = some type) (hv : type.Normal v) :
    kind.Normal (a.set name v) := by
  obtain ⟨f, hfind, rfl⟩ := Option.map_eq_some_iff.1 htype
  have hname : f.name = name := by simpa using List.find?_some hfind
  subst hname
  exact Schema.Normal.set h kind.schema_regular (List.mem_of_find?_eq_some hfind) hv

end Kind

end Chronicle
