import Chronicle.Proofs.Reconstruction.Presence
import Chronicle.Proofs.Reconstruction.Recorded

/-!
# Reconstruction in a divided run

Where a moment divides a run, a reconstruction at the moment has a row for every entity that was
there before it. The historical value of a row is the first usable value that the later writes of
the entity recorded, else the present one.

## Main statements

* `Divided.mem_presentBefore` — the entities that were there before the moment.
* `Divided.historical_eq` — where a historical value comes from.
* `Divided.reconstructAt_ok` — the rows of a reconstruction, in order.
-/

namespace Chronicle

open Service

/-! ## Usable values -/

/-- The value of the first entry that carries one is the first usable value recorded. -/
theorem first_usable (ms : List Modification) (name : String) (sentinel : Option Value)
    (v : Value) :
    (match ms.find? (·.carries name sentinel) with
      | some m => m.diffs.get name
      | none => v) =
      ((ms.filterMap (·.diffs.get? name)).filter (Value.usable sentinel)).headD v := by
  induction ms with
  | nil => rfl
  | cons m rest ih =>
    rw [List.find?_cons, Modification.carries_eq, List.filterMap_cons]
    cases hget : m.diffs.get? name with
    | none => exact ih
    | some w =>
      cases husable : w.usable sentinel with
      | true => simp [husable, Attributes.get, hget]
      | false => simp [husable, ih]

/-! ## Entities -/

namespace Divided

variable {moment : Moment} {past present : Store} {ws vs : List Write} {kind : Kind} {id : Int}
  {name : String} {e : Entity}

/-- The later writes of an entity follow on the state at the moment. -/
theorem follow (h : Divided moment past present ws vs) (kind : Kind) (id : Int) :
    Follow (past.find? kind id) (life vs kind id) := by
  have hfollow := h.present.follow kind id
  rw [life_append, follow_append, ← h.past.live] at hfollow
  exact hfollow.2

/-- The later writes of an entity lead from its state at the moment to its present one. -/
theorem live (h : Divided moment past present ws vs) (kind : Kind) (id : Int) :
    present.find? kind id = finalOf (past.find? kind id) (life vs kind id) := by
  rw [h.present.live, life_append, finalOf_append, ← h.past.live]

theorem valid (h : Divided moment past present ws vs) {w : Write} (hw : w ∈ vs) : w.Valid :=
  h.present.valid w (List.mem_append_right _ hw)

theorem changesSince_eq (h : Divided moment past present ws vs) (kind : Kind) (name : String) :
    present.changesSince kind moment name =
      (entriesOf Write.modification? kind vs).filter (·.carries name (kind.sentinel? name)) := by
  rw [Store.changesSince, h.chronological.modifications_eq h.present,
    cutAt_entriesOf stampedByCall_modification? h.before h.after]

theorem addedSince_eq (h : Divided moment past present ws vs) (kind : Kind) :
    present.addedSince kind moment = (entriesOf Write.addition? kind vs).map (·.entityId) := by
  rw [Store.addedSince, h.chronological.additions_eq h.present,
    cutAt_entriesOf stampedByCall_addition? h.before h.after]

/-- The entities with an addition from the moment on are those that were created from it on. -/
theorem mem_addedSince (h : Divided moment past present ws vs) :
    id ∈ present.addedSince kind moment ↔ ∃ w ∈ life vs kind id, w.before = none := by
  rw [h.addedSince_eq, List.mem_map]
  constructor
  · rintro ⟨a, ha, rfl⟩
    obtain ⟨w, hw, rfl, hentry⟩ := mem_entriesOf.1 ha
    obtain ⟨actor, now, hnone, -, -, rfl⟩ := Write.addition?_eq_some.1 hentry
    exact ⟨w, mem_life.2 ⟨hw, rfl, rfl⟩, hnone⟩
  · rintro ⟨w, hw, hnone⟩
    obtain ⟨hmem, rfl, rfl⟩ := mem_life.1 hw
    obtain ⟨actor, now, hactor, hnow⟩ := (h.valid hmem).attributed
    have hentry := Write.addition?_eq_some.2 ⟨actor, now, hnone, hactor, hnow, rfl⟩
    exact ⟨_, mem_entriesOf.2 ⟨w, hmem, rfl, hentry⟩, rfl⟩

/-- The entities without an addition from the moment on are those that were there before it. -/
theorem mem_presentBefore (h : Divided moment past present ws vs) :
    e ∈ present.presentBefore kind moment ↔
      present.find? kind e.id = some e ∧ (past.find? kind e.id).isSome = true := by
  have hadded : present.find? kind e.id = some e →
      (e.id ∈ present.addedSince kind moment ↔ past.find? kind e.id = none) := by
    intro he
    rw [h.mem_addedSince]
    have hfollow := h.follow kind e.id
    rw [h.live] at he
    -- The later writes of an entity begin with its creation if and only if it is new.
    cases hpast : past.find? kind e.id with
    | none =>
      rw [hpast] at hfollow he
      obtain ⟨w, rest, hlife⟩ := exists_cons_of_finalOf he
      rw [hlife] at hfollow ⊢
      exact ⟨fun _ => rfl, fun _ => ⟨w, List.mem_cons_self, hfollow.1⟩⟩
    | some e₀ =>
      rw [hpast] at hfollow
      constructor
      · rintro ⟨w, hw, hnone⟩
        obtain ⟨f, hf⟩ := hfollow.exists_before hw
        cases hnone.symm.trans hf
      · exact nofun
  rw [Store.mem_presentBefore]
  refine and_congr_right fun he => ?_
  rw [hadded he]
  exact Option.isSome_iff_ne_none.symm

/-- An entity that was there before the moment is there still. -/
theorem exists_present (h : Divided moment past present ws vs)
    (hpast : (past.find? kind id).isSome = true) : ∃ e, present.find? kind id = some e := by
  obtain ⟨e₀, he₀⟩ := Option.isSome_iff_exists.1 hpast
  rw [h.live, he₀]
  exact exists_finalOf e₀ _

/-- The entities without an addition from the moment on have the ids of those before it. -/
theorem presentBefore_ids (h : Divided moment past present ws vs) (kind : Kind) :
    ((present.presentBefore kind moment).map (·.id)).Perm
      ((past.entities.get kind).rows.map (·.id)) := by
  have hnodup := present.nodup_presentBefore kind moment
  refine (List.perm_ext_iff_of_nodup hnodup (EntityTable.ids_nodup _)).2 fun id => ?_
  rw [List.mem_map, EntityTable.mem_ids_iff]
  constructor
  · rintro ⟨e, he, rfl⟩
    exact Option.isSome_iff_exists.1 (h.mem_presentBefore.1 he).2
  · intro hpast
    obtain ⟨e, he⟩ := h.exists_present (Option.isSome_iff_exists.2 hpast)
    obtain rfl := EntityTable.id_of_get? he
    exact ⟨e, h.mem_presentBefore.2 ⟨he, Option.isSome_iff_exists.2 hpast⟩, rfl⟩

/-! ## Historical values -/

/-- The historical value of an entity is the first usable one that its later writes recorded, else
the present one. -/
theorem historical_eq (h : Divided moment past present ws vs) (kind : Kind) (name : String)
    (e : Entity) :
    (rowFor (present.changesSince kind moment name) name e).historical =
      ((recorded name (life vs kind e.id)).filter (Value.usable (kind.sentinel? name))).headD
        (e.value name) := by
  have hfind : (present.changesSince kind moment name).find? (·.entityId == e.id) =
      ((life vs kind e.id).filterMap Write.modification?).find?
        (·.carries name (kind.sentinel? name)) := by
    rw [h.changesSince_eq, ← filter_entriesOf, List.find?_filter, List.find?_filter]
    simp only [and_comm]
  rw [recorded, ← first_usable, ← hfind]
  rfl

/-- The values that an attribute of an entity took from the moment on. -/
theorem values_eq (h : Divided moment past present ws vs) {e₀ : Entity}
    (hpast : past.find? kind id = some e₀) (hpresent : present.find? kind id = some e)
    (hname : name ∈ kind.tracked) :
    (e₀.value name :: (life vs kind id).map (·.entity.value name)).destutter Value.Differs =
      recorded name (life vs kind id) ++ [e.value name] := by
  have hfollow := h.follow kind id
  have hlive := h.live kind id
  rw [hpast] at hfollow hlive
  have hplain : (e₀.value name).IsPlain := (h.past.normal hpast).get_isPlain name
  refine destutter_values hfollow (fun w hw => h.valid (mem_life.1 hw).1)
    (fun w hw => (mem_life.1 hw).2.1.symm) hname hplain ?_
  rw [← hlive, hpresent]

/-- A reconstruction has one row for every entity that was there before the moment, in order. -/
theorem reconstructAt_ok {t : WallTime} (h : Divided (.naive t) past present ws vs)
    (hname : name ∈ kind.tracked) (ht : moment.utc = .ok t) :
    ∃ rows, (reconstructAt (.text kind.name) moment (some name) present).result = .ok rows ∧
      (rows.map HistoricalRow.entityId).Perm ((past.entities.get kind).rows.map (·.id)) ∧
      (∀ row ∈ rows, ∃ e₀ e, past.find? kind e.id = some e₀ ∧ present.find? kind e.id = some e ∧
        row = rowFor (present.changesSince kind (.naive t) name) name e) ∧
      rows.Pairwise (HistoricalRow.Precedes (kind.ranking? name)) := by
  have hids := present.ids_rowsBefore kind name (.naive t)
  obtain ⟨rows, hrows, hperm, hordered⟩ := h.present.reconstructAt_ok hname ht
  refine ⟨rows, hrows, (hperm.map _).trans (hids ▸ h.presentBefore_ids kind), fun row hrow => ?_,
    hordered⟩
  obtain ⟨e, he, rfl⟩ := Store.mem_rowsBefore.1 (hperm.mem_iff.1 hrow)
  obtain ⟨hpresent, hpast⟩ := h.mem_presentBefore.1 he
  obtain ⟨e₀, he₀⟩ := Option.isSome_iff_exists.1 hpast
  exact ⟨e₀, e, he₀, hpresent, rfl⟩

end Divided

end Chronicle
