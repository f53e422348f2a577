import Chronicle.Proofs.Relational.Steps
import Chronicle.Proofs.Service.Write

/-!
# Writes through a faithful session

A creation inserts the row of the new entity and then that of its addition, an update overwrites the
row of the entity and then inserts that of its modification. A transaction commits what its block
has done, or takes it back if the block fails.

## Main statements

* `Faithful.creation`, `Faithful.alteration` — what the two writes do.
* `RelationalStore.within_of_ok`, `RelationalStore.within_of_error` — the ends of a unit of work.
-/

namespace Chronicle

namespace Relational

variable {σ : Type} [Session σ] {view : σ → RowStore} {d : RowStore}

open Service

namespace Faithful

variable {kind : Kind} {attributes : Attributes} {actor : Actor} {clock : Moment} {now : WallTime}

/-- The row of an entity is found, be it locked or not. -/
theorem perform_getEntity (h : Faithful view) (hd : d.pending = []) {id : Int}
    {e? : Option Entity} (he : d.current.Shows kind id e?) (readOnly : Bool) :
    Leads view (exec readOnly (Block.perform (.getEntity kind id (!readOnly)))) d (.ok e?) d := by
  cases readOnly with
  | false => exact h.getEntity hd he true
  | true => exact h.getEntity hd he false

/-! ## Creation -/

/-- A creation inserts the row of the entity and that of its addition. -/
theorem creation (h : Faithful view) (hd : d.pending = []) (hattributes : kind.Normal attributes)
    (hnow : clock.utc = .ok now) (actor : Actor) :
    let e : Entity := ⟨d.current.next (.entities kind), kind, attributes⟩
    Leads view (exec false (creation kind attributes actor clock)) d (.ok e)
      ((d.insert (.entities kind) (.ofNew kind attributes)).insert (.additions kind)
        (.ofAddition (newAddition e actor now))) := by
  intro e
  let d' := d.insert (.entities kind) (.ofNew kind attributes)
  have hinsert : Leads view
      (exec false (Block.perform (.insertEntity kind attributes.toValue))) d (.ok e) d' :=
    h.insertEntity hd hattributes
  have hrow : (d'.current.find? (.entities kind) e.id).isSome = true :=
    Contents.isSome_find?_insert
  have happend : Leads view
      (exec false (Block.perform (.appendAddition (newAddition e actor now)))) d' (.ok ())
      (d'.insert (.additions kind) (.ofAddition (newAddition e actor now))) :=
    h.appendRow (d := d') hd hrow _ _
  unfold Service.creation
  refine hinsert.block_bind (.lift_bind (toNaive_of_utc hnow) (happend.block_bind ?_))
  exact leads_of_eq fun _ => rfl

/-! ## Update -/

/-- An update overwrites the row of the entity and inserts that of its modification. -/
theorem alteration (h : Faithful view) (hd : d.pending = []) {before : Entity}
    {changes : Attributes} (hbefore : d.current.Shows before.kind before.id (some before))
    (hattributes : before.kind.validate (before.attributes.merge changes).toValue = .ok attributes)
    (hnow : clock.utc = .ok now) (actor : Actor) :
    let after := { before with attributes }
    let entry := newModification before after actor now
    Leads view (exec false (alteration before.kind before.id changes actor clock)) d
      (.ok (after, entry))
      ((d.assign (.entities before.kind) before.id attributes).insert (.modifications before.kind)
        (.ofModification entry)) := by
  intro after entry
  let d' := d.assign (.entities before.kind) before.id attributes
  have hsome : (d.current.find? (.entities before.kind) before.id).isSome = true :=
    hbefore.isSome_find?
  have hsave : Leads view (exec false (Block.perform (.saveEntity after))) d (.ok ()) d' :=
    h.saveEntity hd hsome
  have hrow : (d'.current.find? (.entities before.kind) before.id).isSome = true := by
    change ((d.current.assign (.entities before.kind) _ _).find? _ _).isSome = true
    rw [Contents.isSome_find?_assign]
    exact hsome
  have happend : Leads view (exec false (Block.perform (.appendModification entry))) d' (.ok ())
      (d'.insert (.modifications before.kind) (.ofModification entry)) :=
    h.appendRow (d := d') hd hrow _ _
  have hbetween : Modification.between before after before.kind.tracked (some actor) (.naive now) =
      .ok entry := if_pos ⟨rfl, rfl⟩
  unfold Service.alteration
  refine (h.perform_getEntity hd hbefore false).block_bind ?_
  refine .lift_bind hattributes (.lift_bind (toNaive_of_utc hnow) (.lift_bind hbetween ?_))
  refine hsave.block_bind (happend.block_bind ?_)
  exact leads_of_eq fun _ => rfl

/-- An update that cannot be carried out leaves the rows as they were. -/
theorem alteration_error (h : Faithful view) (hd : d.pending = []) {s : Store} {id : Int}
    {changes : Attributes} {e : Error} (hfound : d.current.Shows kind id (s.find? kind id))
    (he : alteredEntity s kind id changes clock = .error e) (actor : Actor) :
    Leads view (exec false (Service.alteration kind id changes actor clock)) d (.error e) d := by
  unfold Service.alteration
  refine (h.perform_getEntity hd hfound false).block_bind ?_
  unfold alteredEntity at he
  cases hbefore : s.find? kind id with
  | none =>
    rw [hbefore] at he
    cases he
    exact leads_of_eq fun _ => rfl
  | some before =>
    simp only [hbefore] at he ⊢
    cases hattributes : kind.validate (before.attributes.merge changes).toValue with
    | error failure =>
      rw [hattributes] at he
      cases he
      exact .lift_bind_error rfl
    | ok attributes =>
      refine .lift_bind rfl ?_
      cases hnow : clock.utc with
      | error failure =>
        rw [hattributes, hnow] at he
        cases he
        exact .lift_bind_error (toNaive_of_utc_error hnow)
      | ok now =>
        rw [hattributes, hnow] at he
        cases he

end Faithful

end Relational

/-! ## The ends of a unit of work -/

namespace RelationalStore

open Relational

variable {σ α : Type} [Session σ] {view : σ → RowStore} {d : RowStore} {b : Block α}
  {t : RelationalStore σ}

/-- The session of a storage when a block begins. -/
def entered (mode : Mode) (t : RelationalStore σ) : σ :=
  let session := (Session.call .start (Session.call .connect t.session).2).2
  if mode = .snapshot then (Session.call (.isolate t.isolation) session).2 else session

theorem view_entered (h : Faithful view) (mode : Mode) (t : RelationalStore σ) :
    view (t.entered mode) = view t.session := by
  have hstart : view (Session.call .start (Session.call .connect t.session).2).2 =
      view t.session := by
    rw [h.start, h.connect]
  unfold entered
  split
  · rw [h.isolate, hstart]
  · exact hstart

/-- The end of a unit of work: a commit, or a rollback after a failure. -/
def close (result : Except Error α) : StateM σ (Except Error α) := do
  match Block.failure? result with
  | some e => Relational.call (.rollback e)
  | none => Relational.call .commit
  Relational.call .disconnect
  return result

/-- A unit of work runs its block and then ends. -/
theorem within_eq (mode : Mode) (b : Block α) (t : RelationalStore σ) :
    let last := exec (mode == .snapshot) b (t.entered mode)
    (Operation.within mode b t).result = last.1 ∧
      (Operation.within mode b t).state.session = ((close last.1).run last.2).2 := by
  intro last
  have hrun : (transaction t.isolation mode b.run Block.failure?).run t.session =
      (close last.1).run last.2 := by
    cases mode <;> rfl
  have hclose : ((close last.1).run last.2).1 = last.1 := by
    unfold close
    cases last.1 <;> rfl
  have hwithin : Operation.within mode b t = {
      result := Exit.outcome {
        result := ((close last.1).run last.2).1
        failure := Block.failure? ((close last.1).run last.2).1
        state := t }
      state := { t with session := ((close last.1).run last.2).2 } } := by
    rw [← hrun]
    rfl
  rw [hwithin, hclose]
  refine ⟨?_, rfl⟩
  cases last.1 <;> rfl

/-- A unit of work whose block succeeds commits what the block has done. -/
theorem within_of_ok (mode : Mode) (h : Faithful view) {a : α}
    (hb : Leads view (exec (mode == .snapshot) b) (view t.session) (.ok a) d) :
    (Operation.within mode b t).result = .ok a ∧
      view (Operation.within mode b t).state.session = d.commit := by
  obtain ⟨hresult, hstate⟩ := within_eq mode b t
  obtain ⟨hlast, hview⟩ := hb (t.entered mode) (view_entered h mode t)
  rw [hlast] at hresult hstate
  refine ⟨hresult, ?_⟩
  have hcommit := h.commit (exec (mode == .snapshot) b (t.entered mode)).2
  rw [hview] at hcommit
  calc view (Operation.within mode b t).state.session
    _ = view (Session.call .disconnect (Session.call .commit
          (exec (mode == .snapshot) b (t.entered mode)).2).2).2 := congrArg view hstate
    _ = d.commit := by rw [h.disconnect _ (hcommit ▸ d.settled_commit), hcommit]

/-- A unit of work whose block fails takes back what the block has done. -/
theorem within_of_error (mode : Mode) (h : Faithful view) {e : Error}
    (hb : Leads view (exec (mode == .snapshot) b) (view t.session) (.error e) d) :
    (Operation.within mode b t).result = .error e ∧
      d.Discards (view (Operation.within mode b t).state.session) := by
  obtain ⟨hresult, hstate⟩ := within_eq mode b t
  obtain ⟨hlast, hview⟩ := hb (t.entered mode) (view_entered h mode t)
  rw [hlast] at hresult hstate
  refine ⟨hresult, ?_⟩
  have hrollback := h.rollback e (exec (mode == .snapshot) b (t.entered mode)).2
  rw [hview] at hrollback
  have hsession : view (Operation.within mode b t).state.session =
      view (Session.call (.rollback e) (exec (mode == .snapshot) b (t.entered mode)).2).2 :=
    (congrArg view hstate).trans (h.disconnect _ hrollback.settled)
  exact hsession ▸ hrollback

end RelationalStore

end Chronicle
