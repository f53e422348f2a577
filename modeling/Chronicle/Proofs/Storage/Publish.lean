import Chronicle.Proofs.History.Logs
import Chronicle.Proofs.Storage.Execution

/-!
# What a unit of work publishes

A program changes no more of the committed store than the next ids. Publishing overlays the entities
and appends the log entries up to the first that a log refuses. A publication that fails changes
nothing if and only if the staged entities are the committed ones and no entry was appended.

## Main definitions

* `Store.SameRecords` — stores with the same entities and logs.

## Main statements

* `Staging.run_sameRecords` — a program leaves entities and logs of the committed store.
* `EntityTable.get?_overlay`, `EntityTable.overlay_eq_self_iff` — what overlaying does to a table.
* `Staging.publish_eq` — publishing where no log refuses an entry.
* `Staging.publish_store` — what is published, complete or not.
* `Staging.appendAll_preserves`, `Staging.appendAll_eq_self_iff` — what appending does to a log.
* `Staging.appendAll_modifications_eq`, `Staging.appendAll_additions_eq` — appending entries that
  the log accepts.
* `Staging.appendAll_modifications`, `Staging.appendAll_additions` — logs of given entries.
* `Staging.publish_sameRecords_iff` — when publishing changes nothing.
-/

namespace Chronicle

/-! ## Overlaying tables -/

namespace EntityTable

theorem ids_nodup (t : EntityTable) : (t.rows.map (·.id)).Nodup := by
  refine List.pairwise_map.2 (t.ordered.imp fun hlt heq => ?_)
  exact Int.lt_irrefl _ (heq ▸ hlt)

/-- A table holds exactly the entities that it finds under their ids. -/
theorem mem_rows_iff {t : EntityTable} {e : Entity} : e ∈ t.rows ↔ t.get? e.id = some e := by
  constructor
  · intro he
    cases hfind : t.get? e.id with
    | none => simpa using List.find?_eq_none.1 hfind e he
    | some f =>
      have hf : f ∈ t.rows := List.mem_of_find?_eq_some hfind
      rw [List.inj_on_of_nodup_map t.ids_nodup hf he (id_of_get? hfind)]
  · exact List.mem_of_find?_eq_some

theorem get?_eq_some_iff {t : EntityTable} {id : Int} {e : Entity} :
    t.get? id = some e ↔ e ∈ t.rows ∧ e.id = id := by
  constructor
  · intro h
    exact ⟨List.mem_of_find?_eq_some h, id_of_get? h⟩
  · rintro ⟨he, rfl⟩
    exact mem_rows_iff.1 he

/-- Tables that find the same entities are equal. -/
theorem ext_get? {t u : EntityTable} (h : ∀ id, t.get? id = u.get? id) : t = u := by
  have hmem : ∀ e, e ∈ t.rows ↔ e ∈ u.rows := fun e => by rw [mem_rows_iff, mem_rows_iff, h]
  have hperm : t.rows.Perm u.rows :=
    (List.perm_ext_iff_of_nodup (.of_map _ t.ids_nodup) (.of_map _ u.ids_nodup)).2 hmem
  have hrows : t.rows = u.rows :=
    hperm.eq_of_pairwise (fun a b _ _ hab hba => absurd hab (by omega)) t.ordered u.ordered
  obtain ⟨rows, ordered⟩ := t
  subst hrows
  rfl

theorem mem_ids_iff {t : EntityTable} {id : Int} :
    id ∈ t.rows.map (·.id) ↔ ∃ e, t.get? id = some e := by
  rw [List.mem_map]
  constructor
  · rintro ⟨e, he, rfl⟩
    exact ⟨e, mem_rows_iff.1 he⟩
  · rintro ⟨e, he⟩
    obtain rfl := id_of_get? he
    exact ⟨e, mem_rows_iff.2 he, rfl⟩

theorem get?_foldl_upsert {rows : List Entity} (h : (rows.map (·.id)).Nodup) (t : EntityTable)
    (id : Int) :
    (rows.foldl upsert t).get? id = (rows.find? (·.id == id)).or (t.get? id) := by
  induction rows generalizing t with
  | nil => rfl
  | cons e rest ih =>
    obtain ⟨he, hrest⟩ := List.nodup_cons.1 h
    rw [List.foldl_cons, ih hrest, get?_upsert, List.find?_cons]
    by_cases hid : id = e.id
    · subst hid
      have hnone : rest.find? (·.id == e.id) = none := by
        refine List.find?_eq_none.2 fun f hf heq => he ?_
        exact List.mem_map.2 ⟨f, hf, by simpa using heq⟩
      simp [hnone]
    · have hne : (e.id == id) = false := by simpa using Ne.symm hid
      simp [hid, hne]

/-- An overlaid table reads as the upper one where that holds an entity. -/
theorem get?_overlay (t staged : EntityTable) (id : Int) :
    (t.overlay staged).get? id = (staged.get? id).or (t.get? id) :=
  get?_foldl_upsert staged.ids_nodup t id

theorem place_eq_self {rows : List Entity} (h : rows.Pairwise fun a b => a.id < b.id) {e : Entity}
    (he : e ∈ rows) : place e rows = rows := by
  induction rows with
  | nil => cases he
  | cons r rest ih =>
    obtain ⟨hr, hrest⟩ := List.pairwise_cons.1 h
    rcases List.mem_cons.1 he with rfl | he
    · simp [place]
    · have hlt := hr e he
      have hnot : ¬ e.id < r.id := by omega
      have hne : e.id ≠ r.id := by omega
      simp [place, hnot, hne, ih hrest he]

theorem upsert_eq_self {t : EntityTable} {e : Entity} (he : e ∈ t.rows) : t.upsert e = t := by
  obtain ⟨rows, ordered⟩ := t
  simp only [upsert, place_eq_self ordered he]

/-- Overlaying changes nothing if and only if the table holds all that is laid over it. -/
theorem overlay_eq_self_iff {t staged : EntityTable} :
    t.overlay staged = t ↔ ∀ e ∈ staged.rows, t.get? e.id = some e := by
  constructor
  · intro h e he
    rw [← h, get?_overlay, mem_rows_iff.1 he, Option.some_or]
  · intro h
    have hrows : ∀ e ∈ staged.rows, e ∈ t.rows := fun e he => mem_rows_iff.2 (h e he)
    unfold overlay
    generalize staged.rows = rows at hrows
    induction rows with
    | nil => rfl
    | cons e rest ih =>
      obtain ⟨he, hrest⟩ := List.forall_mem_cons.1 hrows
      rw [List.foldl_cons, upsert_eq_self he]
      exact ih hrest

end EntityTable

/-! ## Stores with the same records -/

namespace Store

/-- Whether two stores have the same entities and logs. -/
structure SameRecords (s t : Store) : Prop where
  entities : t.entities = s.entities
  modifications : t.modifications = s.modifications
  additions : t.additions = s.additions

namespace SameRecords

variable {s t u : Store}

theorem refl (s : Store) : s.SameRecords s := ⟨rfl, rfl, rfl⟩

theorem symm (h : s.SameRecords t) : t.SameRecords s :=
  ⟨h.entities.symm, h.modifications.symm, h.additions.symm⟩

theorem trans (hst : s.SameRecords t) (htu : t.SameRecords u) : s.SameRecords u :=
  ⟨htu.entities.trans hst.entities, htu.modifications.trans hst.modifications,
    htu.additions.trans hst.additions⟩

end SameRecords

end Store

namespace Staging

variable {α γ : Type} {st : Staging}

/-- A step leaves entities and logs of the committed store. -/
theorem perform_sameRecords (st : Staging) (s : Step) :
    st.store.SameRecords (st.perform s).2.store := by
  cases s with
  | getEntity | listEntities | modifications | additions => exact .refl _
  | insertEntity kind attributes =>
    simp only [perform]
    split
    · exact .refl _
    · unfold insert
      cases Attributes.ofValue? attributes with
      | some _ => exact ⟨rfl, rfl, rfl⟩
      | none => exact ⟨rfl, rfl, rfl⟩
  | saveEntity | appendModification | appendAddition =>
    simp only [perform]
    split
    · exact .refl _
    · split <;> exact .refl _

/-- A program leaves entities and logs of the committed store. -/
theorem run_sameRecords (p : Program α) (st : Staging) :
    st.store.SameRecords (run p st).2.store := by
  induction p generalizing st with
  | done a => exact .refl _
  | step s next ih => exact (perform_sameRecords st s).trans (ih _ _)

/-! ## Appending -/

/-- What the append of each entry preserves, appending a list preserves, be it to its end or not. -/
theorem appendAll_preserves {append : γ → α → Except Error γ} {P : γ → Prop} {xs : List α}
    (hstep : ∀ x ∈ xs, ∀ log log', P log → append log x = .ok log' → P log') {log : γ}
    (h : P log) : P (appendAll append log xs).1 := by
  induction xs generalizing log with
  | nil => exact h
  | cons x rest ih =>
    obtain ⟨hx, hrest⟩ := List.forall_mem_cons.1 hstep
    rw [appendAll]
    split
    · exact ih hrest (hx _ _ h ‹_›)
    · exact h

/-- Where no append fails, appending a list places its entries one by one. -/
theorem appendAll_eq_foldl {append : γ → α → Except Error γ} {place : γ → α → γ} {P : γ → Prop}
    {Q : α → Prop}
    (hstep : ∀ log x, P log → Q x → append log x = .ok (place log x) ∧ P (place log x))
    {log : γ} (h : P log) {xs : List α} (hxs : ∀ x ∈ xs, Q x) :
    appendAll append log xs = (xs.foldl place log, none) := by
  induction xs generalizing log with
  | nil => rfl
  | cons x rest ih =>
    obtain ⟨hx, hrest⟩ := List.forall_mem_cons.1 hxs
    obtain ⟨happend, hplace⟩ := hstep log x h hx
    simp only [appendAll, happend]
    exact ih hplace hrest

/-- Entries without offsets can be appended to a log that knows none. -/
theorem appendAll_modifications_eq {log : ModificationLog} {ms : List Modification}
    (hlog : ∀ kind, Timeline.Alike Modification.timestamp false (log.ofKind kind))
    (hms : ∀ m ∈ ms, m.timestamp.isAware = false) :
    appendAll ModificationLog.append log ms = (ms.foldl ModificationLog.place log, none) := by
  refine appendAll_eq_foldl
    (P := fun log => ∀ kind, Timeline.Alike Modification.timestamp false (log.ofKind kind))
    (fun log m hlog hm => ⟨ModificationLog.append_eq_ok (hm ▸ hlog m.kind), fun kind => ?_⟩)
    hlog hms
  rw [ModificationLog.ofKind_place]
  split
  · exact (hlog kind).place hm
  · exact hlog kind

theorem appendAll_additions_eq {log : AdditionLog} {as : List Addition}
    (hlog : ∀ kind, Timeline.Alike Addition.timestamp false (log.ofKind kind))
    (has : ∀ a ∈ as, a.timestamp.isAware = false) :
    appendAll AdditionLog.append log as = (as.foldl AdditionLog.place log, none) := by
  refine appendAll_eq_foldl
    (P := fun log => ∀ kind, Timeline.Alike Addition.timestamp false (log.ofKind kind))
    (fun log a hlog ha => ⟨AdditionLog.append_eq_ok (ha ▸ hlog a.kind), fun kind => ?_⟩) hlog has
  rw [AdditionLog.ofKind_place]
  split
  · exact (hlog kind).place ha
  · exact hlog kind

/-- Entries without offsets can be appended to the empty log, which then has those of each kind on
their timeline. -/
theorem appendAll_modifications {ms : List Modification}
    (hms : ∀ m ∈ ms, m.timestamp.isAware = false) :
    ∃ log, appendAll ModificationLog.append .empty ms = (log, none) ∧
      ∀ kind, log.ofKind kind =
        Timeline.arranged Modification.timestamp (ms.filter (·.kind = kind)) := by
  refine ⟨_, appendAll_modifications_eq (fun kind => ?_) hms, fun kind => ?_⟩
  · rw [ModificationLog.ofKind_empty]
    exact List.forall_mem_nil _
  · rw [ModificationLog.ofKind_foldl_place, ModificationLog.ofKind_empty]
    rfl

theorem appendAll_additions {as : List Addition} (has : ∀ a ∈ as, a.timestamp.isAware = false) :
    ∃ log, appendAll AdditionLog.append .empty as = (log, none) ∧
      ∀ kind, log.ofKind kind =
        Timeline.arranged Addition.timestamp (as.filter (·.kind = kind)) := by
  refine ⟨_, appendAll_additions_eq (fun kind => ?_) has, fun kind => ?_⟩
  · rw [AdditionLog.ofKind_empty]
    exact List.forall_mem_nil _
  · rw [AdditionLog.ofKind_foldl_place, AdditionLog.ofKind_empty]
    rfl

/-- Where every append makes a log larger, appending a list changes nothing if and only if the first
entry is refused. -/
theorem appendAll_eq_self_iff {append : γ → α → Except Error γ} (size : γ → Nat)
    (hsize : ∀ log x log', append log x = .ok log' → size log < size log') (log : γ) (x : α)
    (rest : List α) :
    (appendAll append log (x :: rest)).1 = log ↔ ∃ e, append log x = .error e := by
  rw [appendAll]
  cases happend : append log x with
  | error e => simp
  | ok log' =>
    have hgrows : size log < size (appendAll append log' rest).1 := by
      refine appendAll_preserves (P := fun l => size log < size l) ?_ (hsize _ _ _ happend)
      exact fun y _ l l' hl hl' => Nat.lt_trans hl (hsize _ _ _ hl')
    have hne : (appendAll append log' rest).1 ≠ log := fun heq => by
      rw [heq] at hgrows
      exact Nat.lt_irrefl _ hgrows
    simp [hne]

/-! ## Publishing -/

variable {st : Staging}

/-- Publishing where no log refuses an entry. -/
theorem publish_eq {entities : ByKind EntityTable} {modifications : ModificationLog}
    {additions : AdditionLog}
    (hentities : .zipWith EntityTable.overlay st.store.entities st.entities = entities)
    (hmodifications : appendAll ModificationLog.append st.store.modifications st.modifications =
      (modifications, none))
    (hadditions : appendAll AdditionLog.append st.store.additions st.additions =
      (additions, none)) :
    st.publish = ({ st.store with entities, modifications, additions }, none) := by
  simp only [publish, hentities, hmodifications, hadditions]

/-- Whether the first log entry that a transaction staged is refused. -/
def FirstRefused (st : Staging) : Prop :=
  match st.modifications, st.additions with
  | m :: _, _ => ∃ e, st.store.modifications.append m = .error e
  | [], a :: _ => ∃ e, st.store.additions.append a = .error e
  | [], [] => False

theorem overlay_entities_eq_iff (st : Staging) :
    ByKind.zipWith EntityTable.overlay st.store.entities st.entities = st.store.entities ↔
      ∀ kind, ∀ e ∈ (st.entities.get kind).rows, st.store.find? kind e.id = some e := by
  constructor
  · intro h kind
    refine EntityTable.overlay_eq_self_iff.1 ?_
    rw [← ByKind.get_zipWith EntityTable.overlay, h]
  · intro h
    refine ByKind.ext_get fun kind => ?_
    rw [ByKind.get_zipWith]
    exact EntityTable.overlay_eq_self_iff.2 (h kind)

/-- Publishing where the log of modifications refuses an entry. -/
theorem publish_of_refused {modifications : ModificationLog} {e : Error}
    (h : appendAll ModificationLog.append st.store.modifications st.modifications =
      (modifications, some e)) :
    st.publish = ({
      st.store with
      entities := .zipWith EntityTable.overlay st.store.entities st.entities
      modifications }, some e) := by
  simp only [publish, h]

/-- Publishing where the log of modifications refuses no entry. -/
theorem publish_of_accepted {modifications : ModificationLog}
    (h : appendAll ModificationLog.append st.store.modifications st.modifications =
      (modifications, none)) :
    st.publish = ({
      st.store with
      entities := .zipWith EntityTable.overlay st.store.entities st.entities
      modifications
      additions := (appendAll AdditionLog.append st.store.additions st.additions).1 },
      (appendAll AdditionLog.append st.store.additions st.additions).2) := by
  simp only [publish, h]

/-- What is published, complete or not: the entities, the modifications up to the first that is
refused, and either no additions or those up to the first that is refused. -/
theorem publish_store (st : Staging) :
    ∃ additions, (additions = st.store.additions ∨
        additions = (appendAll AdditionLog.append st.store.additions st.additions).1) ∧
      st.publish.1 = {
        st.store with
        entities := .zipWith EntityTable.overlay st.store.entities st.entities
        modifications :=
          (appendAll ModificationLog.append st.store.modifications st.modifications).1
        additions } := by
  rcases happended : appendAll ModificationLog.append st.store.modifications st.modifications with
    ⟨modifications, _ | e⟩
  · exact ⟨_, .inr rfl, by rw [publish_of_accepted happended]⟩
  · exact ⟨_, .inl rfl, by rw [publish_of_refused happended]⟩

theorem appendAll_modifications_eq_self_iff (log : ModificationLog) (m : Modification)
    (rest : List Modification) :
    (appendAll ModificationLog.append log (m :: rest)).1 = log ↔ ∃ e, log.append m = .error e :=
  appendAll_eq_self_iff (fun l => l.timelines.size)
    (fun _ _ _ h => ModificationLog.size_lt_of_append h) log m rest

theorem appendAll_additions_eq_self_iff (log : AdditionLog) (a : Addition) (rest : List Addition) :
    (appendAll AdditionLog.append log (a :: rest)).1 = log ↔ ∃ e, log.append a = .error e :=
  appendAll_eq_self_iff (fun l => l.timelines.size)
    (fun _ _ _ h => AdditionLog.size_lt_of_append h) log a rest

/-- A publication that fails changes nothing if and only if it was refused at the first entry and
the staged entities were the committed ones. -/
theorem publish_sameRecords_iff (hfail : st.publish.2.isSome = true) :
    st.store.SameRecords st.publish.1 ↔
      (∀ kind, ∀ e ∈ (st.entities.get kind).rows, st.store.find? kind e.id = some e) ∧
        st.FirstRefused := by
  rw [← overlay_entities_eq_iff, FirstRefused]
  rcases happended : appendAll ModificationLog.append st.store.modifications st.modifications with
    ⟨modifications, _ | e⟩
  · rw [publish_of_accepted happended] at hfail ⊢
    cases hmodifications : st.modifications with
    | cons m rest =>
      rw [hmodifications] at happended
      -- The log accepted its first entry, so it has grown.
      have haccepted : ¬ ∃ e, st.store.modifications.append m = .error e := by
        rintro ⟨e, he⟩
        rw [appendAll, he] at happended
        cases happended
      have hself := appendAll_modifications_eq_self_iff st.store.modifications m rest
      rw [happended] at hself
      exact ⟨fun h => absurd (hself.1 h.modifications) haccepted, fun h => absurd h.2 haccepted⟩
    | nil =>
      rw [hmodifications] at happended
      cases happended
      cases hadditions : st.additions with
      | nil =>
        rw [hadditions] at hfail
        cases hfail
      | cons a rest =>
        have hself := appendAll_additions_eq_self_iff st.store.additions a rest
        exact ⟨fun h => ⟨h.entities, hself.1 h.additions⟩, fun h => ⟨h.1, rfl, hself.2 h.2⟩⟩
  · rw [publish_of_refused happended]
    cases hmodifications : st.modifications with
    | cons m rest =>
      rw [hmodifications] at happended
      have hself := appendAll_modifications_eq_self_iff st.store.modifications m rest
      rw [happended] at hself
      exact ⟨fun h => ⟨h.entities, hself.1 h.modifications⟩, fun h => ⟨h.1, hself.2 h.2, rfl⟩⟩
    | nil =>
      rw [hmodifications] at happended
      cases happended

end Staging

end Chronicle
