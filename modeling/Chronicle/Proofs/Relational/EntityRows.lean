import Chronicle.Proofs.Relational.RowStore

/-!
# Rows of entities

The row of an entity holds its id and, in the column of every field, the value of the attribute.
Normal attributes have a column for every name, so a row of them can be made, and it reads as the
entity again, however its cells are loaded.

## Main definitions

* `Row.ofNew` — the row of a new entity.
* `Row.Holds` — whether a row is that of an entity.
* `Contents.Shows` — whether contents have the row of an entity, or none if there is no entity.

## Main statements

* `Row.ofAttributes?_eq_ok` — making a row of normal attributes.
* `Row.Holds.entity_of_alike` — what the row of an entity reads as.
* `Row.holds_ofNew`, `Row.Holds.assign` — the rows of new and of changed entities.
* `Contents.Shows.insert`, `Contents.Shows.assign` — what writing such rows shows.
-/

namespace Chronicle

namespace Relational

/-! ## The columns of entities -/

/-- A table of entities has the id and a column for every field. -/
theorem columns_entities (kind : Kind) :
    (Table.entities kind).columns.map (·.name) =
      "id" :: kind.spec.schema.fields.map (·.name) := by
  cases kind <;> rfl

theorem id_not_mem_fields (kind : Kind) : "id" ∉ kind.spec.schema.fields.map (·.name) := by
  cases kind <;> decide

theorem self_not_mem_fields (kind : Kind) :
    Table.selfName ∉ kind.spec.schema.fields.map (·.name) := by
  cases kind <;> decide

namespace Row

variable {kind : Kind} {a : Attributes} {row loaded : Row} {e : Entity}

/-- The row of a new entity, its id not yet given. -/
def ofNew (kind : Kind) (a : Attributes) : Row :=
  ofCells (.entities kind) (a.entries.map fun e => (e.1, .value e.2))

theorem takes_of_mem_fields {name : String} (h : name ∈ kind.spec.schema.fields.map (·.name)) :
    takes (.entities kind) name = true := by
  have hcolumn : name ∈ (Table.entities kind).columns.map (·.name) := by
    rw [columns_entities]
    exact List.mem_cons_of_mem _ h
  obtain ⟨c, hc, rfl⟩ := List.mem_map.1 hcolumn
  have hhas : (Table.entities kind).hasColumn c.name = true :=
    List.any_eq_true.2 ⟨c, hc, beq_self_eq_true c.name⟩
  rw [takes, hhas, Bool.true_or]

/-- A row can be made of normal attributes. -/
theorem ofAttributes?_eq_ok (ha : kind.Normal a) :
    ofAttributes? (.entities kind) a.toValue = .ok (ofNew kind a) := by
  have hself : a.has Table.selfName = false := by
    rw [Attributes.has, Schema.Normal.get?_eq_none ha (self_not_mem_fields kind)]
    rfl
  have htakes : (a.names.find? fun name => !takes (.entities kind) name) = none := by
    refine List.find?_eq_none.2 fun name hname => ?_
    rw [takes_of_mem_fields (ha.names ▸ hname)]
    exact Bool.false_ne_true
  rw [ofAttributes?, show Attributes.ofValue? a.toValue = some a from rfl]
  simp only [hself, htakes]
  rfl

/-! ## What the row of an entity holds -/

/-- Whether a row is that of an entity: it has the columns of the kind and in them the id and the
attributes, which are normal. -/
structure Holds (row : Row) (e : Entity) : Prop where
  names : row.names = (Table.entities e.kind).columns.map (·.name)
  id : (row.get "id").plain = .int e.id
  attributes : ∀ f ∈ e.kind.spec.schema.fields, (row.get f.name).plain = e.attributes.get f.name
  normal : e.kind.Normal e.attributes

/-- The row of an entity reads as the entity, however it is loaded. -/
theorem Holds.entity_of_alike (h : row.Holds e) (hloaded : row.Alike loaded) :
    loaded.entity e.kind = .ok e := by
  have hid : loaded.integer "id" = Checked.pure e.id := by
    rw [integer, hloaded, h.id]
    rfl
  have hattributes : loaded.attributes e.kind = e.attributes := by
    rw [h.normal.eq_map e.kind.schema_regular, Row.attributes]
    refine congrArg Attributes.mk (List.map_congr_left fun f hf => ?_)
    rw [hloaded, h.attributes f hf]
  rw [entity, hid, hattributes]
  rfl

theorem Holds.mem_names (h : row.Holds e) {name : String}
    (hname : name ∈ "id" :: e.kind.spec.schema.fields.map (·.name)) : name ∈ row.names := by
  rwa [h.names, columns_entities]

/-- The value that a new row holds in the column of a field. -/
theorem get_ofNew {f : Field} (hf : f ∈ kind.spec.schema.fields) :
    (ofNew kind a).get f.name = .value (a.get f.name) := by
  have hcolumn : f.name ∈ (Table.entities kind).columns.map (·.name) := by
    rw [columns_entities]
    exact List.mem_cons_of_mem _ (List.mem_map_of_mem hf)
  have hlookup : (a.entries.map fun e => (e.1, Cell.value e.2)).lookup f.name =
      (a.get? f.name).map Cell.value :=
    Attributes.lookup_map_entries (fun _ => Cell.value) a.entries f.name
  rw [ofNew, get_ofCells, if_pos hcolumn, hlookup, Attributes.get]
  cases a.get? f.name <;> rfl

/-- A new row with its key is that of the new entity. -/
theorem holds_ofNew (ha : kind.Normal a) (id : Int) :
    ((ofNew kind a).keyed (.entities kind) id).Holds ⟨id, kind, a⟩ := by
  have hnames : (ofNew kind a).names = "id" :: kind.spec.schema.fields.map (·.name) := by
    rw [ofNew, names_ofCells, columns_entities]
  refine ⟨?_, ?_, fun f hf => ?_, ha⟩
  · rw [keyed, names_set, hnames, columns_entities]
  · rw [keyed, Table.key, get_set _ _ (hnames ▸ List.mem_cons_self), if_pos rfl]
    rfl
  · have hmem := List.mem_map_of_mem (f := (·.name)) hf
    have hne : f.name ≠ "id" := fun heq => id_not_mem_fields kind (heq ▸ hmem)
    rw [keyed, Table.key, get_set _ _ (hnames ▸ List.mem_cons_of_mem _ hmem), if_neg hne,
      get_ofNew hf]
    rfl

/-- The row of an entity that is overwritten with normal attributes is that of the changed
entity. -/
theorem Holds.assign (h : row.Holds e) (ha : e.kind.Normal a) :
    (row.assign a).Holds { e with attributes := a } := by
  refine ⟨?_, ?_, fun f hf => ?_, ha⟩
  · rw [names_assign, h.names]
  · have hnone := Schema.Normal.get?_eq_none ha (id_not_mem_fields e.kind)
    rw [get_assign a (h.mem_names List.mem_cons_self), hnone]
    exact h.id
  · obtain ⟨v, hv, -⟩ := ha.values f hf
    have hmem := h.mem_names (List.mem_cons_of_mem _ (List.mem_map_of_mem hf))
    rw [get_assign a hmem, hv, Attributes.get, hv]
    rfl

end Row

/-! ## Found rows -/

theorem isSome_eq_of_rel {α β : Type} {R : α → β → Prop} {x : Option α} {y : Option β}
    (h : Option.Rel R x y) : y.isSome = x.isSome := by
  cases h <;> rfl

namespace Contents

variable {c : Contents} {kind : Kind} {id : Int} {e? : Option Entity}

/-- Whether contents have the row of an entity under an id, or none if there is no entity. -/
def Shows (c : Contents) (kind : Kind) (id : Int) (e? : Option Entity) : Prop :=
  Option.Rel (fun e row => e.kind = kind ∧ Row.Holds row e) e? (c.find? (.entities kind) id)

theorem Shows.isSome_find? (h : c.Shows kind id e?) :
    (c.find? (.entities kind) id).isSome = e?.isSome :=
  isSome_eq_of_rel h

/-- Inserting into another table does not change what is shown. -/
theorem Shows.insert_of_ne (h : c.Shows kind id e?) {table : Table} {row : Row}
    (hne : Table.entities kind ≠ table) : (c.insert table row).Shows kind id e? := by
  unfold Shows
  rw [find?_insert_of_ne hne]
  exact h

/-- Inserting the row of a new entity shows the entity under the next id. -/
theorem Shows.insert (h : c.Shows kind id e?) {other : Kind} {attributes : Attributes}
    (hfresh : c.find? (.entities other) (c.next (.entities other)) = none)
    (hattributes : other.Normal attributes) :
    (c.insert (.entities other) (.ofNew other attributes)).Shows kind id
      (if kind = other ∧ id = c.next (.entities other) then
        some ⟨c.next (.entities other), other, attributes⟩ else e?) := by
  by_cases hkind : kind = other
  · subst hkind
    unfold Shows
    rw [find?_insert hfresh]
    by_cases hid : id = c.next (.entities kind)
    · rw [if_pos hid, if_pos ⟨rfl, hid⟩]
      exact .some ⟨rfl, Row.holds_ofNew hattributes _⟩
    · rw [if_neg hid, if_neg fun hboth => hid hboth.2]
      exact h
  · rw [if_neg fun hboth => hkind hboth.1]
    exact h.insert_of_ne fun heq => hkind (Table.entities.inj heq)

/-- Overwriting the row of an entity shows the changed entity. -/
theorem Shows.assign (h : c.Shows kind id e?) {before : Entity} {attributes : Attributes}
    (hbefore : c.Shows before.kind before.id (some before))
    (hattributes : before.kind.Normal attributes) :
    (c.assign (.entities before.kind) before.id attributes).Shows kind id
      (if kind = before.kind ∧ id = before.id then some { before with attributes } else e?) := by
  unfold Shows at hbefore ⊢
  by_cases hkind : kind = before.kind
  · subst hkind
    rw [find?_assign]
    by_cases hid : id = before.id
    · rw [if_pos hid, if_pos ⟨rfl, hid⟩, hid]
      generalize c.find? (.entities before.kind) before.id = row? at hbefore
      cases hbefore with
      | some hrow => exact .some ⟨rfl, hrow.2.assign hattributes⟩
    · rw [if_neg hid, if_neg fun hboth => hid hboth.2]
      exact h
  · rw [if_neg fun hboth => hkind hboth.1]
    rw [find?_assign_of_ne fun heq => hkind (Table.entities.inj heq)]
    exact h

end Contents

end Relational

end Chronicle
