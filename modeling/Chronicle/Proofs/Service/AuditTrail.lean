import Chronicle.Proofs.Reconstruction.Recorded

/-!
# The audit trail

The audit trail of an entity has one entry for every update of it, in the order of the updates. Each
entry holds what its update overwrote, so overwriting the present attributes with the entries from
the last back to some place gives the attributes after the update before that place.

## Main definitions

* `Modification.Records` — whether an entry is the record of an update.
* `Attributes.undo` — attributes overwritten with entries, the last entry first.

## Main statements

* `records_of_follow` — the entries that the writes of an entity leave.
* `get?_undo` — undoing the writes of an entity.
* `auditTrail_complete` — the audit trail is a complete undo log in every run whose clock does not
  go back.
-/

namespace Chronicle

open Service

/-- Whether an entry is the record of a write: attributed to its actor, stamped with its moment, and
holding the tracked attributes that it changed. -/
structure Modification.Records (m : Modification) (w : Write) : Prop where
  kind : m.kind = w.entity.kind
  entityId : m.entityId = w.entity.id
  actor : ∃ actor, w.call.request.actor? = some actor ∧ m.actorId = actor.id
  timestamp : w.call.clock.toNaive = .ok m.timestamp
  diffs : ∃ before, w.before = some before ∧ ∀ name, m.diffs.has name = true ↔
    name ∈ w.entity.kind.tracked ∧ before.value name ≠ w.entity.value name

/-- The attributes overwritten with the differences of entries, the last entry first. -/
def Attributes.undo (a : Attributes) (trail : List Modification) : Attributes :=
  trail.foldr (fun m a => a.merge m.diffs) a

/-! ## The entries of a trail -/

variable {w created : Write} {ws updates : List Write} {trail : List Modification} {kind : Kind}
  {e before last : Entity} {name : String}

theorem differsAt_iff_ne (he : (e.value name).IsPlain) (hlast : (last.value name).IsPlain) :
    e.attributes.differsAt last.attributes name = true ↔ e.value name ≠ last.value name :=
  (Attributes.differsAt_iff ..).trans (Value.differs_iff_ne he hlast)

theorem Modification.records_of_modification? {m : Modification} (hw : w.Valid)
    (hbefore : w.before = some before) (hnormal : w.entity.kind.Normal before.attributes)
    (h : w.modification? = some m) : m.Records w := by
  obtain ⟨_, actor, now, hfound, hactor, hnow, rfl⟩ := Write.modification?_eq_some.1 h
  obtain rfl := Option.some.inj (hbefore.symm.trans hfound)
  refine ⟨rfl, rfl, ⟨actor, hactor, rfl⟩, toNaive_of_utc hnow, before, hbefore, fun name => ?_⟩
  have hdiffers := differsAt_iff_ne (hnormal.get_isPlain name) (hw.normal.get_isPlain name)
  exact Attributes.has_diff.trans (and_congr_right fun _ => hdiffers)

/-- Writes that follow on an entity leave one entry each. -/
theorem records_of_follow (he : kind.Normal e.attributes) (hfollow : Follow (some e) ws)
    (hvalid : ∀ w ∈ ws, w.Valid) (hkind : ∀ w ∈ ws, w.entity.kind = kind) :
    List.Forall₂ (fun w m => m.Records w) ws (ws.filterMap Write.modification?) := by
  induction ws generalizing e with
  | nil => exact .nil
  | cons w rest ih =>
    obtain ⟨hbefore, hrest⟩ := hfollow
    obtain ⟨hw, hvalid⟩ := List.forall_mem_cons.1 hvalid
    obtain ⟨rfl, hkind⟩ := List.forall_mem_cons.1 hkind
    obtain ⟨m, hm, -⟩ := hw.exists_modification hbefore
    rw [List.filterMap_cons_some hm]
    exact .cons (Modification.records_of_modification? hw hbefore he hm)
      (ih hw.normal hrest hvalid hkind)

/-! ## Undoing -/

/-- Undoing writes of an entity gives the tracked attributes that it had before them. -/
theorem get?_undo (he : kind.Normal e.attributes) (hfollow : Follow (some e) ws)
    (hvalid : ∀ w ∈ ws, w.Valid) (hkind : ∀ w ∈ ws, w.entity.kind = kind)
    (hlast : finalOf (some e) ws = some last) (hname : name ∈ kind.tracked) :
    (last.attributes.undo (ws.filterMap Write.modification?)).get? name =
      e.attributes.get? name := by
  induction ws generalizing e with
  | nil =>
    cases hlast
    rfl
  | cons w rest ih =>
    obtain ⟨hbefore, hrest⟩ := hfollow
    obtain ⟨hw, hvalid⟩ := List.forall_mem_cons.1 hvalid
    obtain ⟨rfl, hkind⟩ := List.forall_mem_cons.1 hkind
    obtain ⟨m, hm, -, hdiffs⟩ := hw.exists_modification hbefore
    obtain ⟨type, htype⟩ := Kind.exists_typeOf? hname
    obtain ⟨v, hv, -⟩ := he.get_normal htype
    obtain ⟨u, hu, -⟩ := hw.normal.get_normal htype
    -- The entry of `w` is the last to be undone.
    have hundone := ih hw.normal hrest hvalid hkind hlast
    have hdiffers := differsAt_iff_ne (he.get_isPlain name) (hw.normal.get_isPlain name)
    have hmerge : last.attributes.undo ((w :: rest).filterMap Write.modification?) =
        (last.attributes.undo (rest.filterMap Write.modification?)).merge m.diffs := by
      rw [List.filterMap_cons_some hm]
      rfl
    rw [hmerge, hdiffs, Attributes.get?_merge_diff, hundone, hv]
    by_cases hne : e.value name ≠ w.entity.value name
    · rw [if_pos ⟨hname, hdiffers.2 hne⟩, Attributes.get, hv]
      rfl
    · rw [if_neg fun hboth => hne (hdiffers.1 hboth.2), hu]
      have heq : e.attributes.get name = w.entity.attributes.get name := not_not.1 hne
      rw [Attributes.get, Attributes.get, hv, hu] at heq
      exact congrArg some heq.symm

/-- The later updates of an entity follow on any of its states. -/
theorem follow_drop (hfollow : Follow (some created.entity) updates) (k : Nat)
    (hk : k < (created :: updates).length) :
    Follow (some (created :: updates)[k].entity) (updates.drop k) ∧
      finalOf (some (created :: updates)[k].entity) (updates.drop k) =
        finalOf (some created.entity) updates := by
  induction k generalizing created updates with
  | zero => exact ⟨hfollow, rfl⟩
  | succ k ih =>
    cases updates with
    | nil => simp at hk
    | cons u rest => exact ih hfollow.2 (Nat.lt_of_succ_lt_succ hk)

theorem drop_filterMap {α β : Type} {f : α → Option β} {xs : List α}
    (h : ∀ x ∈ xs, ∃ y, f x = some y) (k : Nat) :
    (xs.filterMap f).drop k = (xs.drop k).filterMap f := by
  induction xs generalizing k with
  | nil => simp
  | cons x rest ih =>
    obtain ⟨⟨y, hy⟩, hrest⟩ := List.forall_mem_cons.1 h
    rw [List.filterMap_cons_some hy]
    cases k with
    | zero => rw [List.drop_zero, List.drop_zero, List.filterMap_cons_some hy]
    | succ k => exact ih hrest k

/-- The audit trail is a complete undo log. In a run whose clock does not go back, the writes of a
live entity are its creation and then updates, each of which left the entity that it returned. The
audit trail has one entry for every update, in the order of the updates: attributed to the update's
actor, stamped with its moment, and holding exactly the tracked attributes that it changed. The
present attributes, overwritten with the entries from the last back to the first after any of these
writes, have the tracked attributes that the write left. -/
theorem auditTrail_complete {calls : List Call} (hclock : Chronological calls) {id : Int}
    (he : (Store.empty.after calls).find? kind id = some e) :
    ∃ created updates trail,
      (Store.empty.writes calls).filter (·.concerns kind id) = created :: updates ∧
      created.call.request.isCreate = true ∧
      (∀ u ∈ updates, u.call.request.isUpdate = true) ∧
      (∀ w ∈ created :: updates, (w.call.step w.source).find? kind id = some w.entity) ∧
      (auditTrail (.text kind.name) id (Store.empty.after calls)).result = .ok trail ∧
      List.Forall₂ (fun u m => m.Records u) updates trail ∧
      ∀ k (hk : k < (created :: updates).length), ∀ name ∈ kind.tracked,
        (e.attributes.undo (trail.drop k)).get? name =
          (created :: updates)[k].entity.attributes.get? name := by
  have h := ledger_of_run calls
  obtain ⟨created, updates, hlife, hnone, hupdates, hlast, hall⟩ := h.exists_life he
  have hbefore : ∀ u ∈ updates, ∃ f, u.before = some f := fun u hu => hupdates.exists_before hu
  have hlate : ∀ u ∈ updates, u.Valid ∧ u.entity.kind = kind := fun u hu =>
    ⟨(hall u (List.mem_cons_of_mem _ hu)).1, (hall u (List.mem_cons_of_mem _ hu)).2.1⟩
  have hnormal : ∀ w ∈ created :: updates, kind.Normal w.entity.attributes := fun w hw =>
    (hall w hw).2.1 ▸ (hall w hw).1.normal
  refine ⟨created, updates, updates.filterMap Write.modification?, hlife,
    (hall created List.mem_cons_self).1.created hnone, fun u hu => ?_, fun w hw => ?_, ?_, ?_,
    fun k hk name hname => ?_⟩
  · obtain ⟨f, hf⟩ := hbefore u hu
    exact (hlate u hu).1.updated f hf
  · obtain ⟨hw, rfl, rfl⟩ := hall w hw
    exact hw.left
  · have hcreation : created.modification? = none := by simp [Write.modification?, hnone]
    rw [auditTrail_eq, (hclock.writes .empty).modifications_eq h, filter_entriesOf, hlife,
      List.filterMap_cons_none hcreation]
  · exact records_of_follow (hnormal created List.mem_cons_self) hupdates
      (fun u hu => (hlate u hu).1) (fun u hu => (hlate u hu).2)
  · have hsome : ∀ u ∈ updates, ∃ m, u.modification? = some m := fun u hu => by
      obtain ⟨f, hf⟩ := hbefore u hu
      obtain ⟨m, hm, -⟩ := (hlate u hu).1.exists_modification hf
      exact ⟨m, hm⟩
    obtain ⟨hfollow, hfinal⟩ := follow_drop hupdates k hk
    have hdrop : ∀ w ∈ updates.drop k, w ∈ updates := fun w hw => List.mem_of_mem_drop hw
    rw [drop_filterMap hsome]
    exact get?_undo (hnormal _ (List.getElem_mem hk)) hfollow (fun w hw => (hlate w (hdrop w hw)).1)
      (fun w hw => (hlate w (hdrop w hw)).2) (hfinal.trans hlast) hname

/-- Undoing both updates of a demon brings back the position that it was created with. -/
theorem auditTrail_complete_sampleRun :
    Chronological sampleRun ∧
      ∃ e, (Store.empty.after sampleRun).find? .demon 1 = some e ∧
        ∃ trail, (auditTrail (.text "demon") 1 (Store.empty.after sampleRun)).result = .ok trail ∧
          trail.length = 2 ∧ ∃ created ∈ Store.empty.writes sampleRun,
            created.call.request.isCreate = true ∧
            (e.attributes.undo trail).get? "position" =
              created.entity.attributes.get? "position" := by
  have hclock : Chronological sampleRun := by decide
  have hsome : ((Store.empty.after sampleRun).find? .demon 1).isSome = true := by decide +kernel
  obtain ⟨e, he⟩ := Option.isSome_iff_exists.1 hsome
  obtain ⟨created, updates, trail, hwrites, hcreate, -, -, htrail, hrecords, hundo⟩ :=
    auditTrail_complete hclock he
  have hthree : ((Store.empty.writes sampleRun).filter (·.concerns .demon 1)).length = 3 := by
    decide +kernel
  have hlength : updates.length = 2 := by
    rw [hwrites, List.length_cons] at hthree
    omega
  have hcreated : created ∈ Store.empty.writes sampleRun :=
    List.mem_of_mem_filter (hwrites ▸ List.mem_cons_self)
  exact ⟨hclock, e, he, trail, htrail, hrecords.length_eq.symm.trans hlength, created, hcreated,
    hcreate, hundo 0 (Nat.succ_pos _) "position" (by decide)⟩

end Chronicle
