import Chronicle.Error.Class
import Chronicle.Proofs.Reconstruction.Presence

/-!
# What operations log

A write logs one line if it succeeds, and one line if its transaction fails; a check before the
transaction fails without a line. A reconstruction logs one line, with the number of its rows. No
other operation logs anything.

## Main definitions

* `Service.createdLine`, `Service.updatedLine`, `Service.reconstructedLine` — the lines.

## Main statements

* `Service.create_ends`, `Service.update_ends` — how a write ends, with its lines.
* `Service.get_lines`, `Service.auditTrail_lines`, `Service.reconstructAt_lines` — the lines of
  reads.
-/

namespace Chronicle

/-! ## Classes of failures -/

/-- A moment without a reading of universal time lies outside the calendar. -/
theorem Moment.eq_outOfRange_of_utc {m : Moment} {e : Error} (h : m.utc = .error e) :
    e = .outOfRange := by
  cases m with
  | naive t => cases h
  | aware t offset =>
    simp only [utc] at h
    split at h
    · cases h
    · cases h
      rfl

theorem Kind.className_of_ofValue {v : Value} {e : Error} (h : Kind.ofValue v = .error e) :
    e.className = "ValueError" := by
  unfold Kind.ofValue at h
  split at h
  · split at h
    · cases h
    · cases h
      rfl
  · cases h
    rfl

theorem Kind.className_of_validate {kind : Kind} {input : Value} {e : Error}
    (h : kind.validate input = .error e) : e.className = ErrorClass.constraint.name := by
  unfold Kind.validate Except.mapError at h
  split at h
  · cases h
    rfl
  · cases h

namespace Service

open Operation

variable {s : Store} {kind : Kind} {name : String} {t : WallTime} {ws : List Write}

/-! ## Lines -/

/-- The line of a creation. -/
def createdLine (kind : Kind) (id : Int) (actor : Actor) : LogLine where
  level := .info
  event := .text "Tracked entity created"
  fields := [("kind", .text kind.name), ("entity_id", .int id), ("actor_id", .int actor.id)]

/-- The line of an update. -/
def updatedLine (kind : Kind) (id : Int) (actor : Actor) (changed : List String) : LogLine where
  level := .info
  event := .text "Tracked entity updated"
  fields := [("kind", .text kind.name), ("entity_id", .int id), ("actor_id", .int actor.id),
    ("changed", .list (changed.map Value.text))]

/-- The line of a reconstruction. -/
def reconstructedLine (kind : Kind) (name : String) (t : WallTime) (count : Nat) : LogLine where
  level := .debug
  event := .text "Reconstructed historical ordering"
  fields := [("kind", .text kind.name), ("attribute", .text name),
    ("target", .text (Moment.naive t).written), ("entities", .int count)]

/-! ## Writes -/

/-- How a creation ends: it succeeds and logs that, its transaction fails at a moment outside the
calendar with a spent id and logs that, or a check before fails with another class and nothing is
logged. -/
theorem create_ends (hs : s.Sound) (kindValue input : Value) (actor? : Option Actor)
    (clock : Moment) :
    (∃ kind attributes actor now, Kind.ofValue kindValue = .ok kind ∧ actor? = some actor ∧
      clock.utc = .ok now ∧ create kindValue input actor? clock s = {
        result := .ok (newEntity s kind attributes)
        state := s.withCreated (newEntity s kind attributes)
          (newAddition (newEntity s kind attributes) actor now)
        lines := [createdLine kind (s.nextIds.get kind) actor] }) ∨
    (∃ kind, Kind.ofValue kindValue = .ok kind ∧ create kindValue input actor? clock s =
      { result := .error .outOfRange, state := spend s kind, lines := [Store.rolledBack] }) ∨
    ∃ e, e.className ≠ Error.outOfRange.className ∧
      create kindValue input actor? clock s = { result := .error e, state := s } := by
  unfold create
  cases actor? with
  | none => exact .inr (.inr ⟨.missingActor "create", by decide, rfl⟩)
  | some actor =>
    cases hkind : Kind.ofValue kindValue with
    | error e =>
      refine .inr (.inr ⟨e, ?_, rfl⟩)
      rw [Kind.className_of_ofValue hkind]
      decide
    | ok kind =>
      simp only [requireActor, lift_bind_ok]
      cases hvalid : kind.validate input with
      | error e =>
        refine .inr (.inr ⟨e, ?_, rfl⟩)
        rw [Kind.className_of_validate hvalid]
        decide
      | ok attributes =>
        rw [lift_bind_ok]
        cases hnow : clock.utc with
        | error e =>
          obtain rfl := Moment.eq_outOfRange_of_utc hnow
          exact .inr (.inl ⟨kind, rfl,
            bind_of_error (within_creation_error s kind attributes actor hnow)⟩)
        | ok now =>
          exact .inl ⟨kind, attributes, actor, now, rfl, rfl, rfl,
            bind_of_ok (within_creation hs kind attributes actor hnow)⟩

/-- How an update ends: it succeeds and logs that with the names that changed, its transaction fails
and logs that, or a check of its arguments fails and nothing is logged. -/
theorem update_ends (hs : s.Sound) (kindValue : Value) (id : Int) (changes : Attributes)
    (actor? : Option Actor) (clock : Moment) :
    (∃ before attributes actor now, Kind.ofValue kindValue = .ok before.kind ∧ before.id = id ∧
      s.find? before.kind before.id = some before ∧ actor? = some actor ∧
      update kindValue id changes actor? clock s = {
        result := .ok { before with attributes }
        state := s.withUpdated { before with attributes }
          (newModification before { before with attributes } actor now)
        lines := [updatedLine before.kind id actor
          (changedNames (newModification before { before with attributes } actor now))] }) ∨
    (∃ e kind actor, Kind.ofValue kindValue = .ok kind ∧ actor? = some actor ∧
      update kindValue id changes actor? clock s =
        { result := .error e, state := s, lines := [Store.rolledBack] }) ∨
    ∃ e, ((∃ e, Kind.ofValue kindValue = .error e) ∨ actor? = none) ∧
      update kindValue id changes actor? clock s = { result := .error e, state := s } := by
  unfold update
  cases actor? with
  | none => exact .inr (.inr ⟨_, .inr rfl, rfl⟩)
  | some actor =>
    cases hkind : Kind.ofValue kindValue with
    | error e => exact .inr (.inr ⟨e, .inl ⟨e, rfl⟩, rfl⟩)
    | ok kind =>
      simp only [requireActor, lift_bind_ok]
      rcases exec_alteration_cases s kind id changes actor clock with
        ⟨before, attributes, now, hbefore, hattributes, hnow⟩ | ⟨e, -, he⟩
      · obtain rfl := hs.filed kind id before hbefore
        obtain rfl := EntityTable.id_of_get? hbefore
        exact .inl ⟨before, attributes, actor, now, rfl, rfl, hbefore, rfl,
          bind_of_ok (within_alteration hs actor hbefore hattributes hnow)⟩
      · exact .inr (.inl ⟨e, kind, actor, rfl, rfl, bind_of_error (within_of_error he)⟩)

/-! ## Reads -/

theorem get_lines (s : Store) (kindValue : Value) (id : Int) : (get kindValue id s).lines = [] := by
  unfold get
  cases Kind.ofValue kindValue with
  | error e => rfl
  | ok kind =>
    have hwithin := within_snapshot (Block.perform (.getEntity kind id false)) s
    rw [Staging.exec_getEntity] at hwithin
    rw [lift_bind_ok, bind_of_ok hwithin]
    cases s.find? kind id <;> rfl

theorem auditTrail_lines (s : Store) (kindValue : Value) (id : Int) :
    (auditTrail kindValue id s).lines = [] := by
  unfold auditTrail
  cases Kind.ofValue kindValue with
  | error e => rfl
  | ok kind => rw [lift_bind_ok, within_snapshot]

/-- A reconstruction that fails logs nothing, any other one line. -/
theorem reconstructAt_lines (s : Store) (hname : name ∈ kind.tracked) {moment : Moment}
    (ht : moment.utc = .ok t) :
    (reconstructAt (.text kind.name) moment (some name) s).lines =
      match (reconstructAt (.text kind.name) moment (some name) s).result with
      | .ok rows => [reconstructedLine kind name t rows.length]
      | .error _ => [] := by
  unfold reconstructAt
  rw [ofValue_name, lift_bind_ok, requireTracked_eq hname, lift_bind_ok, toNaive_of_utc ht,
    lift_bind_ok]
  have hwithin := within_snapshot (evidence kind name (.naive t)) s
  cases hfound : (Staging.exec (evidence kind name (.naive t)) (.start s .snapshot)).1 with
  | error e =>
    rw [hfound] at hwithin
    rw [bind_of_error hwithin]
  | ok found =>
    rw [hfound] at hwithin
    rw [bind_of_ok hwithin]
    cases reconstruct found.entities found.modifications found.additions (.naive t) name
      (kind.sentinel? name) (kind.ranking? name) <;> rfl

end Service

end Chronicle
