import Chronicle.Proofs.Storage.Publish

/-!
# Stores after one write

A creation puts one new entity and one addition in their places, an update one changed entity and
one modification; what is kept elsewhere in the store does not change.

## Main definitions

* `Store.Sound` — a store whose logs hold no offsets, with every entity under its own kind.
* `Store.withCreated`, `Store.withUpdated` — a store after one creation, one update.
* `Store.SpentFrom` — stores that differ at most in spent ids.

## Main statements

* `Store.find?_withCreated`, `Store.find?_withUpdated` — only the written entity has changed.
* `Store.Sound.withCreated`, `Store.Sound.withUpdated` — sound stores stay sound.
-/

namespace Chronicle

/-! ## Values of every kind -/

/-- Only the written entity has changed. -/
theorem ByKind.get?_upsert (b : ByKind EntityTable) (e : Entity) (kind : Kind) (id : Int) :
    ((b.modify e.kind (·.upsert e)).get kind).get? id =
      if kind = e.kind ∧ id = e.id then some e else (b.get kind).get? id := by
  by_cases h : kind = e.kind
  · subst h
    simp [EntityTable.get?_upsert]
  · simp [get_modify_of_ne _ _ h, h]

/-- Taking the next number of a kind makes no number smaller. -/
theorem ByKind.get_le_modify_succ (b : ByKind Int) (kind other : Kind) :
    b.get other ≤ (b.modify kind (· + 1)).get other := by
  by_cases h : other = kind
  · subst h
    rw [get_modify_self]
    omega
  · rw [get_modify_of_ne _ _ h]

/-! ## Stores -/

namespace Store

/-- Whether no entry of the logs knows the offset of its clock, and every entity is kept under its
own kind. -/
structure Sound (s : Store) : Prop where
  filed : ∀ kind id e, s.find? kind id = some e → e.kind = kind
  modifications : ∀ kind, Timeline.Alike Modification.timestamp false (s.modifications.ofKind kind)
  additions : ∀ kind, Timeline.Alike Addition.timestamp false (s.additions.ofKind kind)

/-- The store with a new entity and its addition. -/
def withCreated (s : Store) (e : Entity) (a : Addition) : Store :=
  { s with
    entities := s.entities.modify e.kind (·.upsert e)
    additions := s.additions.place a
    nextIds := s.nextIds.modify e.kind (· + 1) }

/-- The store with a changed entity and its modification. -/
def withUpdated (s : Store) (e : Entity) (m : Modification) : Store :=
  { s with
    entities := s.entities.modify e.kind (·.upsert e)
    modifications := s.modifications.place m }

theorem find?_withCreated (s : Store) (e : Entity) (a : Addition) (kind : Kind) (id : Int) :
    (s.withCreated e a).find? kind id =
      if kind = e.kind ∧ id = e.id then some e else s.find? kind id :=
  ByKind.get?_upsert s.entities e kind id

theorem find?_withUpdated (s : Store) (e : Entity) (m : Modification) (kind : Kind) (id : Int) :
    (s.withUpdated e m).find? kind id =
      if kind = e.kind ∧ id = e.id then some e else s.find? kind id :=
  ByKind.get?_upsert s.entities e kind id

theorem filed_upsert {s : Store} (hs : s.Sound) {e f : Entity} {kind : Kind} {id : Int}
    (h : (if kind = e.kind ∧ id = e.id then some e else s.find? kind id) = some f) :
    f.kind = kind := by
  by_cases hwritten : kind = e.kind ∧ id = e.id
  · rw [if_pos hwritten] at h
    cases h
    exact hwritten.1.symm
  · rw [if_neg hwritten] at h
    exact hs.filed kind id f h

theorem Sound.withCreated {s : Store} (hs : s.Sound) {e : Entity} {a : Addition}
    (ha : a.timestamp.isAware = false) : (s.withCreated e a).Sound where
  filed kind id f h := filed_upsert hs (find?_withCreated s e a kind id ▸ h)
  modifications := hs.modifications
  additions kind := by
    rw [Store.withCreated, AdditionLog.ofKind_place]
    split
    · exact (hs.additions kind).place ha
    · exact hs.additions kind

theorem Sound.withUpdated {s : Store} (hs : s.Sound) {e : Entity} {m : Modification}
    (hm : m.timestamp.isAware = false) : (s.withUpdated e m).Sound where
  filed kind id f h := filed_upsert hs (find?_withUpdated s e m kind id ▸ h)
  modifications kind := by
    rw [Store.withUpdated, ModificationLog.ofKind_place]
    split
    · exact (hs.modifications kind).place hm
    · exact hs.modifications kind
  additions := hs.additions

/-- Whether two stores differ at most in spent ids, which only the second may have more of. -/
structure SpentFrom (s t : Store) : Prop extends SameRecords s t where
  nextIds : ∀ kind, s.nextIds.get kind ≤ t.nextIds.get kind

theorem Sound.spentFrom {s t : Store} (hs : s.Sound) (h : s.SpentFrom t) : t.Sound where
  filed kind id e he := hs.filed kind id e (by rwa [find?, ← h.entities])
  modifications kind := h.modifications ▸ hs.modifications kind
  additions kind := h.additions ▸ hs.additions kind

theorem SpentFrom.refl (s : Store) : s.SpentFrom s := ⟨.refl s, fun _ => Int.le_refl _⟩

end Store

end Chronicle
