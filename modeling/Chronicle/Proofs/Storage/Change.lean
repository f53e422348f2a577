import Chronicle.Proofs.Storage.Effect

/-!
# What a write changes

A write is described by what it changes: one list has one item more, or one item of it is another,
and everything else is as it was. Placing an entity or an entry among others changes a list in one
of these ways.

## Main definitions

* `OneMore`, `OneOther` — lists that differ by one item.
* `Store.Gains` — stores that differ by one new entity and its addition.
* `Store.Changes` — stores that differ by one changed entity and its modification.

## Main statements

* `Store.gains_withCreated`, `Store.changes_withUpdated` — what the two writes change.
-/

namespace Chronicle

variable {α : Type}

/-- Whether a list is another with one item more. -/
def OneMore (x : α) (xs ys : List α) : Prop :=
  ∃ front back, xs = front ++ back ∧ ys = front ++ x :: back

/-- Whether a list is another with one item in the place of another item. -/
def OneOther (x y : α) (xs ys : List α) : Prop :=
  ∃ front back, xs = front ++ x :: back ∧ ys = front ++ y :: back

theorem OneMore.head (x : α) (xs : List α) : OneMore x xs (x :: xs) := ⟨[], xs, rfl, rfl⟩

theorem OneMore.cons {x : α} {xs ys : List α} (h : OneMore x xs ys) (z : α) :
    OneMore x (z :: xs) (z :: ys) := by
  obtain ⟨front, back, rfl, rfl⟩ := h
  exact ⟨z :: front, back, rfl, rfl⟩

theorem OneOther.head (x y : α) (rest : List α) : OneOther x y (x :: rest) (y :: rest) :=
  ⟨[], rest, rfl, rfl⟩

theorem OneOther.cons {x y : α} {xs ys : List α} (h : OneOther x y xs ys) (z : α) :
    OneOther x y (z :: xs) (z :: ys) := by
  obtain ⟨front, back, rfl, rfl⟩ := h
  exact ⟨z :: front, back, rfl, rfl⟩

/-! ## Placing -/

/-- A timeline with a placed entry has one entry more. -/
theorem Timeline.oneMore_place (stamp : α → Moment) (x : α) (xs : List α) :
    OneMore x xs (place stamp x xs) := by
  induction xs with
  | nil => exact .head x []
  | cons y rest ih =>
    rw [place, List.orderedInsert_cons]
    split
    · exact .head x (y :: rest)
    · exact ih.cons y

namespace EntityTable

variable {e before : Entity} {rows : List Entity}

/-- An entity whose id is new comes as one row more. -/
theorem oneMore_place (h : ∀ r ∈ rows, r.id ≠ e.id) : OneMore e rows (place e rows) := by
  induction rows with
  | nil => exact .head e []
  | cons r rest ih =>
    obtain ⟨hr, hrest⟩ := List.forall_mem_cons.1 h
    unfold place
    split
    · exact .head e (r :: rest)
    · rw [if_neg (Ne.symm hr)]
      exact (ih hrest).cons r

/-- An entity whose id is known takes the place of the one of that id. -/
theorem oneOther_place (hrows : rows.Pairwise fun a b => a.id < b.id) (hbefore : before ∈ rows)
    (hid : e.id = before.id) : OneOther before e rows (place e rows) := by
  induction rows with
  | nil => cases hbefore
  | cons r rest ih =>
    obtain ⟨hr, hrest⟩ := List.pairwise_cons.1 hrows
    unfold place
    rcases List.mem_cons.1 hbefore with rfl | hbefore
    · rw [if_neg (by omega), if_pos hid]
      exact .head before e rest
    · have hlt := hr before hbefore
      rw [if_neg (by omega), if_neg (by omega)]
      exact (ih hrest hbefore).cons r

/-- An entity whose id is above all others comes last. -/
theorem place_eq_append (h : ∀ r ∈ rows, r.id < e.id) : place e rows = rows ++ [e] := by
  induction rows with
  | nil => rfl
  | cons r rest ih =>
    obtain ⟨hr, hrest⟩ := List.forall_mem_cons.1 h
    rw [place, if_neg (by omega), if_neg (by omega), ih hrest]
    rfl

theorem oneMore_upsert {t : EntityTable} (h : t.get? e.id = none) :
    OneMore e t.rows (t.upsert e).rows := by
  refine oneMore_place fun r hr hid => ?_
  have hsome := mem_rows_iff.1 hr
  rw [hid, h] at hsome
  cases hsome

theorem oneOther_upsert {t : EntityTable} (h : t.get? e.id = some before) :
    OneOther before e t.rows (t.upsert e).rows := by
  have hid := id_of_get? h
  exact oneOther_place t.ordered (List.mem_of_find?_eq_some h) hid.symm

end EntityTable

/-! ## Writes on a store -/

namespace Store

/-- Whether a store has one new entity and one addition more than another, and is like it
otherwise. -/
structure Gains (s t : Store) (e : Entity) (a : Addition) : Prop where
  entities : OneMore e (s.entities.get e.kind).rows (t.entities.get e.kind).rows
  additions : OneMore a (s.additions.ofKind e.kind) (t.additions.ofKind e.kind)
  otherEntities : ∀ kind ≠ e.kind, t.entities.get kind = s.entities.get kind
  otherAdditions : ∀ kind ≠ e.kind, t.additions.ofKind kind = s.additions.ofKind kind
  modifications : t.modifications = s.modifications

/-- Whether a store has an entity in the place of another and one modification more than another
store, and is like it otherwise. -/
structure Changes (s t : Store) (before after : Entity) (m : Modification) : Prop where
  entities : OneOther before after (s.entities.get before.kind).rows
    (t.entities.get before.kind).rows
  modifications : OneMore m (s.modifications.ofKind before.kind)
    (t.modifications.ofKind before.kind)
  otherEntities : ∀ kind ≠ before.kind, t.entities.get kind = s.entities.get kind
  otherModifications : ∀ kind ≠ before.kind,
    t.modifications.ofKind kind = s.modifications.ofKind kind
  additions : t.additions = s.additions

/-- A creation under a new id adds its entity and its addition. -/
theorem gains_withCreated {s : Store} {e : Entity} {a : Addition} (hkind : a.kind = e.kind)
    (h : s.find? e.kind e.id = none) : s.Gains (s.withCreated e a) e a where
  entities := by
    rw [withCreated, ByKind.get_modify_self]
    exact EntityTable.oneMore_upsert h
  additions := by
    rw [withCreated, AdditionLog.ofKind_place, if_pos hkind.symm]
    exact Timeline.oneMore_place _ a _
  otherEntities kind hne := ByKind.get_set_of_ne _ _ hne
  otherAdditions kind hne := by
    rw [withCreated, AdditionLog.ofKind_place, if_neg (hkind ▸ hne)]
  modifications := rfl

/-- An update of a known entity replaces it and adds its modification. -/
theorem changes_withUpdated {s : Store} {before after : Entity} {m : Modification}
    (hkind : after.kind = before.kind) (hid : after.id = before.id) (hm : m.kind = before.kind)
    (h : s.find? before.kind before.id = some before) :
    s.Changes (s.withUpdated after m) before after m where
  entities := by
    rw [withUpdated, hkind, ByKind.get_modify_self]
    exact EntityTable.oneOther_upsert (hid ▸ h)
  modifications := by
    rw [withUpdated, ModificationLog.ofKind_place, if_pos hm.symm]
    exact Timeline.oneMore_place _ m _
  otherEntities kind hne := ByKind.get_set_of_ne _ _ (hkind ▸ hne)
  otherModifications kind hne := by
    rw [withUpdated, ModificationLog.ofKind_place, if_neg (hm ▸ hne)]
  additions := rfl

end Store

end Chronicle
