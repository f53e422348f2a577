import Chronicle.Proofs.Schema.WellFormed

/-!
# Checking overwritten attributes

Normal attributes that are overwritten and checked keep what was not overwritten, and what was
overwritten twice can be overwritten at once: the check looks at each name by itself, and a value
that it gave back before stays as it is.

## Main definitions

* `Attributes.followedBy` — two sets of changes as one.

## Main statements

* `Attributes.get?_merge_followedBy` — overwriting with both at once is overwriting one by one.
* `Attributes.get?_diff_trans` — the difference over two steps from those of the steps.
* `Kind.get?_of_unchanged`, `Kind.mem_names_of_diff` — what is not overwritten stays as it was.
* `Kind.validate_followedBy` — validating once or twice comes to the same.
-/

namespace Chronicle

/-! ## Overwriting twice -/

namespace Attributes

variable {a b c d : Attributes} {name : String}

/-- The changes of one set and after them those of another, as one set. -/
def followedBy (c d : Attributes) : Attributes := ofEntries (c.entries ++ d.entries)

theorem distinct_followedBy (c d : Attributes) : (c.followedBy d).Distinct :=
  Distinct.merge (a := empty) List.nodup_nil _

/-- Overwriting with two sets at once reads as overwriting with one after the other. -/
theorem get?_merge_followedBy (a c d : Attributes) (name : String) :
    (a.merge (c.followedBy d)).get? name = ((a.merge c).merge d).get? name := by
  rw [get?_merge_of_distinct a (distinct_followedBy c d), followedBy, ofEntries, get?_merge,
    List.reverse_append, List.lookup_append, get?_empty, Option.or_none, get?_merge, get?_merge,
    Option.or_assoc]

theorem mem_names_merge : name ∈ (a.merge b).names ↔ name ∈ a.names ∨ name ∈ b.names := by
  obtain ⟨entries⟩ := b
  induction entries generalizing a with
  | nil => simp [merge, names]
  | cons e rest ih =>
    have hset : name ∈ (a.set e.1 e.2).names ↔ name = e.1 ∨ name ∈ a.names := mem_names_setIn
    have hstep : name ∈ (a.merge ⟨e :: rest⟩).names ↔
        name ∈ (a.set e.1 e.2).names ∨ name ∈ (⟨rest⟩ : Attributes).names := ih
    have hcons : name ∈ (⟨e :: rest⟩ : Attributes).names ↔
        name = e.1 ∨ name ∈ (⟨rest⟩ : Attributes).names := List.mem_cons
    rw [hstep, hset, hcons]
    exact or_right_comm.trans or_comm

/-- Overwriting names that are there keeps the names and their order. -/
theorem names_merge_of_subset (h : ∀ name ∈ b.names, name ∈ a.names) :
    (a.merge b).names = a.names := by
  obtain ⟨entries⟩ := b
  induction entries generalizing a with
  | nil => rfl
  | cons e rest ih =>
    obtain ⟨he, hrest⟩ := List.forall_mem_cons.1 h
    have hset := names_set_of_mem he e.2
    exact (ih fun name hname => hset ▸ hrest name hname).trans hset

theorem mem_names_followedBy : name ∈ (c.followedBy d).names ↔ name ∈ c.names ∨ name ∈ d.names := by
  rw [followedBy, ofEntries, mem_names_merge]
  simp [names, empty]

theorem get?_merge_of_not_mem (h : name ∉ c.names) : (a.merge c).get? name = a.get? name := by
  have hnone : c.entries.reverse.lookup name = none := lookup_eq_none (by simpa [names] using h)
  rw [get?_merge, hnone, Option.none_or]

theorem get?_merge_of_mem (h : name ∈ c.names) (a b : Attributes) :
    (a.merge c).get? name = (b.merge c).get? name := by
  have hmem : name ∈ (⟨c.entries.reverse⟩ : Attributes).names := by simpa [names] using h
  obtain ⟨v, hv⟩ := Option.isSome_iff_exists.1 (has_iff_mem_names.2 hmem)
  have hfound : c.entries.reverse.lookup name = some v := hv
  rw [get?_merge, get?_merge, hfound, Option.some_or, Option.some_or]

/-- The difference over two steps: the differences of both, the first step's values counting, less
what came back to its first value. -/
theorem get?_diff_trans (ha : (a.get name).IsPlain) (hb : (b.get name).IsPlain) (c : Attributes)
    (tracked : List String) :
    (a.diff c tracked).get? name =
      if (a.get name).same (c.get name) then none
      else ((b.diff c tracked).merge (a.diff b tracked)).get? name := by
  rw [get?_merge_diff, get?_diff, get?_diff]
  cases hlast : (a.get name).same (c.get name) with
  | true => simp [differsAt, hlast]
  | false =>
    by_cases hstep : a.get name = b.get name
    · -- The first step leaves the value, so the second finds it as it was.
      have hself : (a.get name).same (a.get name) = true := (Value.same_iff_eq ha ha).2 rfl
      simp [differsAt, ← hstep, hlast, hself]
    · have hdiffers : (a.get name).same (b.get name) = false :=
        (Value.differs_iff_ne ha hb).2 hstep
      by_cases htracked : name ∈ tracked
      · simp [htracked, differsAt, hdiffers, hlast]
      · simp [htracked]

end Attributes

/-! ## Checking -/

namespace Schema

variable {s : Schema} {x a b c d : Attributes} {name : String}

/-- A set that is accepted has no names but those of fields. -/
theorem mem_fields_of_checkFields (h : s.checkFields x = .ok b) (hname : name ∈ x.names) :
    name ∈ s.fields.map (·.name) := by
  unfold checkFields at h
  split at h
  · rename_i hempty
    rw [violations, List.isEmpty_iff, List.append_eq_nil_iff, extras, List.map_eq_nil_iff] at hempty
    have hfield := List.filter_eq_nil_iff.1 hempty.2 name hname
    simpa [hasField] using hfield
  · cases h

/-- What is not overwritten stays as it was. -/
theorem get?_of_unchanged (hs : s.Regular) (hlower : s.Lowercase) (ha : s.Normal a)
    (hb : s.checkFields (a.merge c) = .ok b) (hname : name ∉ c.names) :
    b.get? name = a.get? name :=
  get?_congr_of_checkFields hs hb (check_of_normal hs hlower ha)
    (Attributes.get?_merge_of_not_mem hname)

/-- A field reads the same whether it is overwritten at once or one by one. -/
theorem read_followedBy (hs : s.Regular) (hlower : s.Lowercase)
    (hb : s.checkFields (a.merge c) = .ok b) (d : Attributes) {f : Field} (hf : f ∈ s.fields) :
    f.read (a.merge (c.followedBy d)) = f.read (b.merge d) := by
  have honce := Attributes.get?_merge_followedBy a c d f.name
  by_cases hname : f.name ∈ d.names
  · exact Field.read_congr (honce.trans (Attributes.get?_merge_of_mem hname _ _))
  · -- The value that the first check gave back is converted once more.
    obtain ⟨v, hv, hget⟩ := (get?_of_checkFields hs hb).1 f hf
    have hnormal : f.type.Normal v := normal_of_read (hs.defaults f hf) hv
    rw [Attributes.get?_merge_of_not_mem hname] at honce
    rw [Field.read_congr honce, hv, Field.read, Attributes.get?_merge_of_not_mem hname, hget]
    exact (FieldType.convert_of_normal (hlower f hf) hnormal).symm

/-- Overwriting and checking twice comes to the same as doing it once with both changes. -/
theorem checkFields_followedBy (hs : s.Regular) (hlower : s.Lowercase) (ha : s.Normal a)
    (hb : s.checkFields (a.merge c) = .ok b) (hd : ∀ name ∈ d.names, name ∈ s.fields.map (·.name)) :
    s.checkFields (a.merge (c.followedBy d)) = s.checkFields (b.merge d) := by
  have hchecked : s.check (a.merge c).toValue = .ok b := hb
  have hnames : b.names = s.fields.map (·.name) := (normal_of_check hs hchecked).names
  refine checkFields_congr ?_ fun f hf => read_followedBy hs hlower hb d hf
  rw [Attributes.names_merge_of_subset, Attributes.names_merge_of_subset, ha.names, hnames]
  · exact fun name hname => hnames ▸ hd name hname
  · intro name hname
    rw [ha.names]
    rcases Attributes.mem_names_followedBy.1 hname with hc | hname
    · exact mem_fields_of_checkFields hb (Attributes.mem_names_merge.2 (.inr hc))
    · exact hd name hname

end Schema

/-! ## The attributes of a kind -/

namespace Kind

variable {kind : Kind} {a b c d : Attributes} {name : String}

/-- Validation leaves what is not overwritten as it was, -/
theorem get?_of_unchanged (ha : kind.Normal a) (hb : kind.validate (a.merge c).toValue = .ok b)
    (hname : name ∉ c.names) : b.get? name = a.get? name :=
  Schema.get?_of_unchanged kind.schema_regular kind.schema_lowercase ha (mapError_eq_ok_iff.1 hb)
    hname

/-- so that what differs was overwritten. -/
theorem mem_names_of_diff (ha : kind.Normal a) (hb : kind.validate (a.merge c).toValue = .ok b)
    {tracked : List String} (h : name ∈ (a.diff b tracked).names) : name ∈ c.names := by
  by_contra hname
  have hsame : b.get name = a.get name := by
    rw [Attributes.get, Attributes.get, get?_of_unchanged ha hb hname]
  obtain ⟨-, hdiffers⟩ := Attributes.mem_names_diff.1 h
  have hself := (Value.same_iff_eq (ha.get_isPlain name) (ha.get_isPlain name)).2 rfl
  rw [Attributes.differsAt, hsame, hself] at hdiffers
  cases hdiffers

/-- Overwriting and validating twice comes to the same as doing it once with both changes. -/
theorem validate_followedBy (ha : kind.Normal a) (hb : kind.validate (a.merge c).toValue = .ok b)
    {e : Attributes} (he : kind.validate (b.merge d).toValue = .ok e) :
    kind.validate (a.merge (c.followedBy d)).toValue = .ok e := by
  have hfirst : kind.spec.schema.checkFields (a.merge c) = .ok b := mapError_eq_ok_iff.1 hb
  have hsecond : kind.spec.schema.checkFields (b.merge d) = .ok e := mapError_eq_ok_iff.1 he
  have hfields : ∀ name ∈ d.names, name ∈ kind.spec.schema.fields.map (·.name) := fun name hname =>
    Schema.mem_fields_of_checkFields hsecond (Attributes.mem_names_merge.2 (.inr hname))
  refine mapError_eq_ok_iff.2 (Eq.trans ?_ hsecond)
  exact Schema.checkFields_followedBy kind.schema_regular kind.schema_lowercase ha hfirst hfields

end Kind

end Chronicle
