import Chronicle.Proofs.Storage.Effect

/-!
# References between entities and logs

Whatever programs write: every log entry refers to a live entity of its own kind, every entity is
filed under its own kind and id, and its id has been handed out. Writes are checked against what the
transaction sees, and what it sees is what the store holds once its entities are published. Entities
are published before log entries and are never removed, so a publication that ends half-way leaves
no entry without its entity.

## Main definitions

* `Store.Intact` — stores whose references are intact.
* `Staging.Intact` — transactions that keep them so, whenever they end.

## Main statements

* `Staging.Intact.perform`, `Staging.Intact.run` — steps and programs.
* `Staging.Intact.publish` — publications, complete or not.
* `Store.Intact.run` — units of work.
-/

namespace Chronicle

/-! ## Intact stores -/

/-- Whether every log entry is of the kind that it is logged under and of a live entity, and every
entity is filed under its own kind and an id of its own that has been handed out. -/
structure Store.Intact (s : Store) : Prop where
  modifications : ∀ kind, ∀ m ∈ s.modifications.ofKind kind,
    m.kind = kind ∧ ∃ e, s.find? kind m.entityId = some e
  additions : ∀ kind, ∀ a ∈ s.additions.ofKind kind,
    a.kind = kind ∧ ∃ e, s.find? kind a.entityId = some e
  filed : ∀ kind id e, s.find? kind id = some e → e.kind = kind ∧ e.id = id
  issued : ∀ kind id e, s.find? kind id = some e → 1 ≤ id ∧ id < s.nextIds.get kind
  next : ∀ kind, 1 ≤ s.nextIds.get kind

namespace Store

theorem intact_empty : Store.empty.Intact := by
  constructor <;> intro kind <;> cases kind <;> simp [empty, ModificationLog.ofKind,
    ModificationLog.empty, AdditionLog.ofKind, AdditionLog.empty, find?, ByKind.get,
    ByKind.replicate]

theorem Intact.spentFrom {s t : Store} (h : s.Intact) (ht : s.SpentFrom t) : t.Intact := by
  have hfind : t.find? = s.find? := by
    funext kind id
    rw [find?, find?, ht.entities]
  constructor
  · rw [ht.modifications, hfind]
    exact h.modifications
  · rw [ht.additions, hfind]
    exact h.additions
  · rw [hfind]
    exact h.filed
  · intro kind id e he
    rw [hfind] at he
    obtain ⟨hone, hlt⟩ := h.issued kind id e he
    exact ⟨hone, Int.lt_of_lt_of_le hlt (ht.nextIds kind)⟩
  · exact fun kind => Int.le_trans (h.next kind) (ht.nextIds kind)

end Store

/-! ## Intact transactions -/

namespace Staging

variable {st : Staging} {kind : Kind} {id : Int} {e : Entity}

/-- Whether the committed store is intact, what the transaction sees is filed under its own kind and
an id that has been handed out, and what it staged for the logs is of entities that it sees. -/
structure Intact (st : Staging) : Prop where
  store : st.store.Intact
  filed : ∀ kind id e, st.find? kind id = some e →
    e.kind = kind ∧ 1 ≤ id ∧ id < st.store.nextIds.get kind
  modifications : ∀ m ∈ st.modifications, ∃ e, st.find? m.kind m.entityId = some e
  additions : ∀ a ∈ st.additions, ∃ e, st.find? a.kind a.entityId = some e

theorem intact_start {s : Store} (h : s.Intact) (mode : Mode) : (start s mode).Intact where
  store := h
  filed kind id e he := by
    rw [find?_start] at he
    exact ⟨(h.filed kind id e he).1, h.issued kind id e he⟩
  modifications _ hm := absurd hm List.not_mem_nil
  additions _ ha := absurd ha List.not_mem_nil

/-- A transaction sees what is committed, if it has not staged another state of it. -/
theorem exists_find?_of_store (h : st.store.find? kind id = some e) :
    ∃ f, st.find? kind id = some f := by
  have hcommitted : (st.store.entities.get kind).get? id = some e := h
  rw [find?, hcommitted]
  cases (st.entities.get kind).get? id with
  | some f => exact ⟨f, rfl⟩
  | none => exact ⟨e, rfl⟩

theorem exists_of_requireEntity (h : st.requireEntity kind id = .ok ()) :
    ∃ e, st.find? kind id = some e := by
  unfold requireEntity at h
  split at h
  · exact Option.isSome_iff_exists.1 ‹_›
  · cases h

/-- A transaction sees the entity that it stages. -/
theorem find?_stage (st : Staging) (e : Entity) (kind : Kind) (id : Int) :
    (st.stage e).find? kind id =
      if kind = e.kind ∧ id = e.id then some e else st.find? kind id := by
  have hstaged := ByKind.get?_upsert st.entities e kind id
  rw [find?, stage, hstaged]
  split
  · rfl
  · rfl

theorem exists_find?_stage (h : ∃ f, st.find? kind id = some f) (e : Entity) :
    ∃ f, (st.stage e).find? kind id = some f := by
  rw [find?_stage]
  split
  · exact ⟨e, rfl⟩
  · exact h

/-- The committed store with the next id of a kind taken. -/
theorem spentFrom_takeId (st : Staging) (kind : Kind) :
    st.store.SpentFrom (st.takeId kind).2.store :=
  ⟨⟨rfl, rfl, rfl⟩, st.store.nextIds.get_le_modify_succ kind⟩

theorem lt_nextId_takeId (st : Staging) (kind : Kind) :
    (st.takeId kind).1 < (st.takeId kind).2.store.nextIds.get kind := by
  change _ < (st.store.nextIds.modify kind (· + 1)).get kind
  rw [ByKind.get_modify_self]
  exact Int.lt_succ _

namespace Intact

theorem takeId (h : st.Intact) (kind : Kind) : (st.takeId kind).2.Intact where
  store := h.store.spentFrom (st.spentFrom_takeId kind)
  filed other id e he := by
    obtain ⟨hkind, hone, hlt⟩ := h.filed other id e he
    exact ⟨hkind, hone, Int.lt_of_lt_of_le hlt ((st.spentFrom_takeId kind).nextIds other)⟩
  modifications := h.modifications
  additions := h.additions

/-- An entity with an id that has been handed out can be staged. -/
theorem stage (h : st.Intact) (hone : 1 ≤ e.id) (hlt : e.id < st.store.nextIds.get e.kind) :
    (st.stage e).Intact where
  store := h.store
  filed kind id f hf := by
    rw [find?_stage] at hf
    split at hf
    · rename_i heq
      obtain ⟨rfl, rfl⟩ := heq
      cases hf
      exact ⟨rfl, hone, hlt⟩
    · exact h.filed kind id f hf
  modifications m hm := exists_find?_stage (h.modifications m hm) e
  additions a ha := exists_find?_stage (h.additions a ha) e

theorem insert (h : st.Intact) (kind : Kind) (attributes : Value) :
    (st.insert kind attributes).2.Intact := by
  unfold Staging.insert
  cases Attributes.ofValue? attributes with
  | some attributes =>
    exact (h.takeId kind).stage (h.store.next kind) (st.lt_nextId_takeId kind)
  | none => exact h.takeId kind

/-- No step makes a transaction one that could break a reference. -/
theorem perform (h : st.Intact) (s : Step) : (st.perform s).2.Intact := by
  cases s with
  | getEntity | listEntities | modifications | additions => exact h
  | insertEntity kind attributes =>
    simp only [Staging.perform]
    split
    · exact h
    · exact h.insert kind attributes
  | saveEntity e =>
    simp only [Staging.perform]
    split
    · exact h
    · split
      · exact h
      · rename_i hrequire
        obtain ⟨f, hf⟩ := exists_of_requireEntity hrequire
        obtain ⟨-, hone, hlt⟩ := h.filed e.kind e.id f hf
        exact h.stage hone hlt
  | appendModification m =>
    simp only [Staging.perform]
    split
    · exact h
    · split
      · exact h
      · rename_i hrequire
        refine ⟨h.store, h.filed, List.forall_mem_append.2 ⟨h.modifications, ?_⟩, h.additions⟩
        exact List.forall_mem_singleton.2 (exists_of_requireEntity hrequire)
  | appendAddition a =>
    simp only [Staging.perform]
    split
    · exact h
    · split
      · exact h
      · rename_i hrequire
        refine ⟨h.store, h.filed, h.modifications, List.forall_mem_append.2 ⟨h.additions, ?_⟩⟩
        exact List.forall_mem_singleton.2 (exists_of_requireEntity hrequire)

/-- No program does either, whichever steps it takes. -/
theorem run {α : Type} (h : st.Intact) (p : Program α) : (run p st).2.Intact := by
  induction p generalizing st with
  | done a => exact h
  | step s next ih => exact ih _ (h.perform s)

/-! ## Publishing -/

/-- The published entities with any logs that refer to what the transaction sees. -/
theorem published (h : st.Intact) {modifications : ModificationLog} {additions : AdditionLog}
    (hmodifications : ∀ kind, ∀ m ∈ modifications.ofKind kind,
      m.kind = kind ∧ ∃ e, st.find? kind m.entityId = some e)
    (hadditions : ∀ kind, ∀ a ∈ additions.ofKind kind,
      a.kind = kind ∧ ∃ e, st.find? kind a.entityId = some e) :
    Store.Intact {
      st.store with
      entities := .zipWith EntityTable.overlay st.store.entities st.entities
      modifications
      additions } := by
  -- The published entities are those that the transaction sees.
  have hfind : ∀ kind id,
      ((ByKind.zipWith EntityTable.overlay st.store.entities st.entities).get kind).get? id =
        st.find? kind id := by
    intro kind id
    rw [ByKind.get_zipWith, EntityTable.get?_overlay]
    rfl
  constructor <;> simp only [Store.find?, hfind]
  · exact hmodifications
  · exact hadditions
  · intro kind id e he
    refine ⟨(h.filed kind id e he).1, ?_⟩
    rw [← hfind] at he
    exact EntityTable.id_of_get? he
  · exact fun kind id e he => (h.filed kind id e he).2
  · exact h.store.next

/-- A publication leaves references intact, also where a log refuses an entry. -/
theorem publish (h : st.Intact) : st.publish.1.Intact := by
  have hmodifications : ∀ kind, ∀ m ∈ (appendAll ModificationLog.append st.store.modifications
      st.modifications).1.ofKind kind, m.kind = kind ∧ ∃ e, st.find? kind m.entityId = some e := by
    refine appendAll_preserves (P := fun log : ModificationLog => ∀ kind, ∀ m ∈ log.ofKind kind,
      m.kind = kind ∧ ∃ e, st.find? kind m.entityId = some e) ?_ ?_
    · intro m hm log log' hlog
      exact ModificationLog.forall_of_append hlog ⟨rfl, h.modifications m hm⟩
    · intro kind m hm
      obtain ⟨hkind, e, he⟩ := h.store.modifications kind m hm
      exact ⟨hkind, exists_find?_of_store he⟩
  have hcommitted : ∀ kind, ∀ a ∈ st.store.additions.ofKind kind,
      a.kind = kind ∧ ∃ e, st.find? kind a.entityId = some e := by
    intro kind a ha
    obtain ⟨hkind, e, he⟩ := h.store.additions kind a ha
    exact ⟨hkind, exists_find?_of_store he⟩
  have hadditions : ∀ kind, ∀ a ∈ (appendAll AdditionLog.append st.store.additions
      st.additions).1.ofKind kind, a.kind = kind ∧ ∃ e, st.find? kind a.entityId = some e := by
    refine appendAll_preserves (P := fun log : AdditionLog => ∀ kind, ∀ a ∈ log.ofKind kind,
      a.kind = kind ∧ ∃ e, st.find? kind a.entityId = some e) ?_ hcommitted
    exact fun a ha log log' hlog => AdditionLog.forall_of_append hlog ⟨rfl, h.additions a ha⟩
  obtain ⟨additions, hpublished, hstore⟩ := st.publish_store
  rw [hstore]
  rcases hpublished with rfl | rfl
  · exact h.published hmodifications hcommitted
  · exact h.published hmodifications hadditions

end Intact

end Staging

/-! ## Units of work -/

/-- A unit of work leaves references intact, however it ends. -/
theorem Store.Intact.run {s : Store} (h : s.Intact) {α : Type} (mode : Mode) (program : Program α)
    (failure? : α → Option Error) : (run mode program failure? s).state.Intact := by
  have hst := (Staging.intact_start h mode).run program
  rcases state_run mode program failure? s with hstate | hstate
  · exact hstate ▸ hst.store
  · exact hstate ▸ hst.publish

end Chronicle
