import Chronicle.Proofs.Service.Operation
import Chronicle.Proofs.Storage.Effect
import Chronicle.Service.Write

/-!
# The effect of tracked writes

On a sound store, a write that succeeds puts one entity in its place and one entry in a log, and
nothing else; a write that fails leaves entities and logs as they were.

## Main definitions

* `Service.newEntity`, `Service.newAddition`, `Service.newModification` — what a write puts in its
  place.
* `Service.createdEntity`, `Service.updatedEntity` — the checks of a write, and what it returns.

## Main statements

* `Service.create_alike`, `Service.update_alike` — a write is its unit of work, on every storage.
* `Service.create_cases`, `Service.update_cases` — what a write comes to on a store.
-/

namespace Chronicle

namespace Service

variable {s : Store} {kind : Kind} {attributes : Attributes} {actor : Actor} {clock : Moment}
  {now : WallTime}

theorem toNaive_of_utc (hnow : clock.utc = .ok now) : clock.toNaive = .ok (.naive now) := by
  rw [Moment.toNaive, hnow]
  rfl

theorem toNaive_of_utc_error {e : Error} (hnow : clock.utc = .error e) :
    clock.toNaive = .error e := by
  rw [Moment.toNaive, hnow]
  rfl

/-! ## Creation -/

/-- The store with one id of a kind spent. -/
def spend (s : Store) (kind : Kind) : Store :=
  { s with nextIds := s.nextIds.modify kind (· + 1) }

theorem spentFrom_spend (s : Store) (kind : Kind) : s.SpentFrom (spend s kind) :=
  ⟨⟨rfl, rfl, rfl⟩, s.nextIds.get_le_modify_succ kind⟩

/-- The entity that a creation writes. -/
def newEntity (s : Store) (kind : Kind) (attributes : Attributes) : Entity :=
  ⟨s.nextIds.get kind, kind, attributes⟩

/-- The entry that a creation writes. -/
def newAddition (e : Entity) (actor : Actor) (now : WallTime) : Addition :=
  ⟨e.kind, e.id, actor.id, .naive now⟩

theorem exec_insertEntity (s : Store) (kind : Kind) (attributes : Attributes) :
    Staging.exec (Block.perform (.insertEntity kind attributes.toValue)) (.start s .transaction) =
      (.ok (newEntity s kind attributes),
        .single (spend s kind) (newEntity s kind attributes)) := rfl

theorem exec_appendAddition (s : Store) (e : Entity) (actor : Actor) (now : WallTime) :
    Staging.exec (Block.perform (.appendAddition (newAddition e actor now))) (.single s e) =
      (.ok (), { Staging.single s e with additions := [newAddition e actor now] }) := by
  rw [Staging.exec_perform, Staging.perform, newAddition, Staging.requireEntity_single]
  rfl

/-- A creation stages the entity and its addition. -/
theorem exec_creation (hnow : clock.utc = .ok now) :
    Staging.exec (creation kind attributes actor clock) (.start s .transaction) =
      (.ok (newEntity s kind attributes), {
        Staging.single (spend s kind) (newEntity s kind attributes) with
        additions := [newAddition (newEntity s kind attributes) actor now] }) := by
  unfold creation
  refine (Staging.exec_bind_ok (exec_insertEntity s kind attributes)).trans ?_
  refine (Staging.exec_lift_bind_ok (toNaive_of_utc hnow)).trans ?_
  exact Staging.exec_bind_ok (exec_appendAddition _ _ actor now)

/-- A creation at a moment outside the calendar has spent an id. -/
theorem exec_creation_error {e : Error} (hnow : clock.utc = .error e) :
    Staging.exec (creation kind attributes actor clock) (.start s .transaction) =
      (.error e, .single (spend s kind) (newEntity s kind attributes)) := by
  unfold creation
  refine (Staging.exec_bind_ok (exec_insertEntity s kind attributes)).trans ?_
  exact Staging.exec_lift_bind_error (toNaive_of_utc_error hnow)

theorem publish_creation (hs : s.Sound) (e : Entity) (actor : Actor) (now : WallTime) :
    Staging.publish {
        Staging.single (spend s e.kind) e with additions := [newAddition e actor now] } =
      (s.withCreated e (newAddition e actor now), none) := by
  have happend : s.additions.append (newAddition e actor now) =
      .ok (s.additions.place (newAddition e actor now)) :=
    AdditionLog.append_eq_ok (hs.additions e.kind)
  have hadditions : Staging.appendAll AdditionLog.append s.additions [newAddition e actor now] =
      (s.additions.place (newAddition e actor now), none) := by
    simp only [Staging.appendAll, happend]
  exact Staging.publish_eq (Staging.overlay_single (spend s e.kind) e) rfl hadditions

theorem within_creation (hs : s.Sound) (kind : Kind) (attributes : Attributes) (actor : Actor)
    (hnow : clock.utc = .ok now) :
    Operation.within .transaction (creation kind attributes actor clock) s = {
      result := .ok (newEntity s kind attributes)
      state := s.withCreated (newEntity s kind attributes)
        (newAddition (newEntity s kind attributes) actor now) } :=
  Operation.within_of_ok (exec_creation hnow) (publish_creation hs _ actor now)

theorem within_creation_error (s : Store) (kind : Kind) (attributes : Attributes) (actor : Actor)
    {e : Error} (hnow : clock.utc = .error e) :
    Operation.within .transaction (creation kind attributes actor clock) s =
      { result := .error e, state := spend s kind, lines := [Store.rolledBack] } :=
  Operation.within_of_error (exec_creation_error hnow)

/-- The entity that a creation returns, or the failure of the first check that it does not pass. -/
def createdEntity (s : Store) (kind input : Value) (actor? : Option Actor) (clock : Moment) :
    Except Error Entity := do
  let _ ← requireActor "create" actor?
  let kind ← Kind.ofValue kind
  let attributes ← kind.validate input
  let _ ← clock.utc
  return newEntity s kind attributes

/-- On every storage, a creation is the unit of work that writes, or it fails a check before. -/
theorem create_alike (kindValue input : Value) (actor? : Option Actor) (clock : Moment) :
    (∃ kind attributes actor, Kind.ofValue kindValue = .ok kind ∧
      kind.validate input = .ok attributes ∧ actor? = some actor ∧
      ∀ {σ : Type} [UnitOfWork σ], (create kindValue input actor? clock : Operation σ Entity).Alike
        (Operation.within .transaction (creation kind attributes actor clock))) ∨
    ∃ e, (∀ s, createdEntity s kindValue input actor? clock = .error e) ∧
      ∀ {σ : Type} [UnitOfWork σ], (create kindValue input actor? clock : Operation σ Entity).Alike
        (Operation.lift (.error e)) := by
  unfold create createdEntity
  cases actor? with
  | none => exact .inr ⟨_, fun _ => rfl, .refl _⟩
  | some actor =>
    cases hkind : Kind.ofValue kindValue with
    | error e => exact .inr ⟨e, fun _ => rfl, .refl _⟩
    | ok kind =>
      cases hattributes : kind.validate input with
      | error e =>
        refine .inr ⟨e, fun _ => ?_, ?_⟩
        · simp [requireActor, hattributes]
        · simp only [requireActor, Operation.lift_bind_ok, hattributes]
          exact .refl _
      | ok attributes =>
        refine .inl ⟨kind, attributes, actor, rfl, hattributes, rfl, ?_⟩
        simp only [requireActor, Operation.lift_bind_ok, hattributes]
        exact Operation.alike_log _ _ _ _

/-- A creation either puts a new entity and its addition in their places or fails one of its checks,
and then leaves all but spent ids. -/
theorem create_cases (hs : s.Sound) (kindValue input : Value) (actor? : Option Actor)
    (clock : Moment) :
    (∃ kind attributes actor now, Kind.ofValue kindValue = .ok kind ∧
      kind.validate input = .ok attributes ∧ actor? = some actor ∧ clock.utc = .ok now ∧
      (create kindValue input actor? clock s).result = .ok (newEntity s kind attributes) ∧
      (create kindValue input actor? clock s).state =
        s.withCreated (newEntity s kind attributes)
          (newAddition (newEntity s kind attributes) actor now)) ∨
    ∃ e, createdEntity s kindValue input actor? clock = .error e ∧
      (create kindValue input actor? clock s).result = .error e ∧
      s.SpentFrom (create kindValue input actor? clock s).state := by
  rcases create_alike kindValue input actor? clock with
    ⟨kind, attributes, actor, hkind, hattributes, rfl, halike⟩ | ⟨e, hchecks, halike⟩
  · rw [(halike s).1, (halike s).2]
    cases hnow : clock.utc with
    | error e =>
      rw [within_creation_error s kind attributes actor hnow]
      refine .inr ⟨e, ?_, rfl, spentFrom_spend s kind⟩
      simp [createdEntity, requireActor, hkind, hattributes, hnow]
    | ok now =>
      rw [within_creation hs kind attributes actor hnow]
      exact .inl ⟨kind, attributes, actor, now, hkind, hattributes, rfl, rfl, rfl, rfl⟩
  · rw [(halike s).1, (halike s).2]
    exact .inr ⟨e, hchecks s, rfl, .refl s⟩

/-! ## Update -/

/-- The entry that an update writes. -/
def newModification (before after : Entity) (actor : Actor) (now : WallTime) : Modification where
  kind := after.kind
  entityId := after.id
  actorId := actor.id
  timestamp := .naive now
  diffs := before.attributes.diff after.attributes after.kind.tracked

theorem exec_saveEntity {e : Entity} (h : (s.find? e.kind e.id).isSome = true) :
    Staging.exec (Block.perform (.saveEntity e)) (.start s .transaction) =
      (.ok (), .single s e) := by
  have hrequire : (Staging.start s .transaction).requireEntity e.kind e.id = .ok () := by
    rw [Staging.requireEntity, Staging.find?_start, if_pos h]
  rw [Staging.exec_perform, Staging.perform, hrequire]
  rfl

theorem exec_appendModification (s : Store) (before after : Entity) (actor : Actor)
    (now : WallTime) :
    Staging.exec (Block.perform (.appendModification (newModification before after actor now)))
        (.single s after) =
      (.ok (), { Staging.single s after with
        modifications := [newModification before after actor now] }) := by
  rw [Staging.exec_perform, Staging.perform, newModification, Staging.requireEntity_single]
  rfl

/-- An update stages the changed entity and its modification. -/
theorem exec_alteration {before : Entity} {changes : Attributes}
    (hbefore : s.find? before.kind before.id = some before)
    (hattributes : before.kind.validate (before.attributes.merge changes).toValue = .ok attributes)
    (hnow : clock.utc = .ok now) :
    let after := { before with attributes }
    Staging.exec (alteration before.kind before.id changes actor clock) (.start s .transaction) =
      (.ok (after, newModification before after actor now), {
        Staging.single s after with
        modifications := [newModification before after actor now] }) := by
  intro after
  have hsome : (s.find? after.kind after.id).isSome = true := by
    rw [hbefore, Option.isSome_some]
  have hbetween : Modification.between before after before.kind.tracked (some actor) (.naive now) =
      .ok (newModification before after actor now) := if_pos ⟨rfl, rfl⟩
  unfold alteration
  refine (Staging.exec_bind_ok (Staging.exec_getEntity s _ _ .transaction true)).trans ?_
  rw [hbefore]
  refine (Staging.exec_lift_bind_ok hattributes).trans ?_
  refine (Staging.exec_lift_bind_ok (toNaive_of_utc hnow)).trans ?_
  refine (Staging.exec_lift_bind_ok hbetween).trans ?_
  refine (Staging.exec_bind_ok (exec_saveEntity hsome)).trans ?_
  exact Staging.exec_bind_ok (exec_appendModification s before after actor now)

/-- The entity that an update of an entity of a kind leaves, or the failure of the first check that
it does not pass. -/
def alteredEntity (s : Store) (kind : Kind) (id : Int) (changes : Attributes) (clock : Moment) :
    Except Error Entity :=
  match s.find? kind id with
  | none => .error (.unknownEntity kind.name id)
  | some before => do
    let attributes ← kind.validate (before.attributes.merge changes).toValue
    let _ ← clock.utc
    return { before with attributes }

/-- The entity that an update returns, or the failure of the first check that it does not pass. -/
def updatedEntity (s : Store) (kind : Value) (id : Int) (changes : Attributes)
    (actor? : Option Actor) (clock : Moment) : Except Error Entity := do
  let _ ← requireActor "update" actor?
  let kind ← Kind.ofValue kind
  alteredEntity s kind id changes clock

/-- An update that cannot be carried out stages nothing. -/
theorem exec_alteration_cases (s : Store) (kind : Kind) (id : Int) (changes : Attributes)
    (actor : Actor) (clock : Moment) :
    (∃ before attributes now, s.find? kind id = some before ∧
      kind.validate (before.attributes.merge changes).toValue = .ok attributes ∧
      clock.utc = .ok now) ∨
    ∃ e, alteredEntity s kind id changes clock = .error e ∧
      Staging.exec (alteration kind id changes actor clock) (.start s .transaction) =
        (.error e, .start s .transaction) := by
  have hget := Staging.exec_getEntity s kind id .transaction true
  cases hbefore : s.find? kind id with
  | none =>
    refine .inr ⟨.unknownEntity kind.name id, ?_, (Staging.exec_bind_ok hget).trans ?_⟩
    · simp [alteredEntity, hbefore]
    · rw [hbefore]
      rfl
  | some before =>
    cases hattributes : kind.validate (before.attributes.merge changes).toValue with
    | error e =>
      refine .inr ⟨e, ?_, (Staging.exec_bind_ok hget).trans ?_⟩
      · simp [alteredEntity, hbefore, hattributes]
      · rw [hbefore]
        exact Staging.exec_lift_bind_error hattributes
    | ok attributes =>
      cases hnow : clock.utc with
      | error e =>
        refine .inr ⟨e, ?_, (Staging.exec_bind_ok hget).trans ?_⟩
        · simp [alteredEntity, hbefore, hattributes, hnow]
        · rw [hbefore]
          refine (Staging.exec_lift_bind_ok hattributes).trans ?_
          exact Staging.exec_lift_bind_error (toNaive_of_utc_error hnow)
      | ok now => exact .inl ⟨before, attributes, now, rfl, hattributes, rfl⟩

theorem publish_alteration (hs : s.Sound) (before after : Entity) (actor : Actor)
    (now : WallTime) :
    Staging.publish { Staging.single s after with
        modifications := [newModification before after actor now] } =
      (s.withUpdated after (newModification before after actor now), none) := by
  have happend : s.modifications.append (newModification before after actor now) =
      .ok (s.modifications.place (newModification before after actor now)) :=
    ModificationLog.append_eq_ok (hs.modifications after.kind)
  have hmodifications : Staging.appendAll ModificationLog.append s.modifications
      [newModification before after actor now] =
      (s.modifications.place (newModification before after actor now), none) := by
    simp only [Staging.appendAll, happend]
  exact Staging.publish_eq (Staging.overlay_single s after) hmodifications rfl

theorem within_alteration (hs : s.Sound) (actor : Actor) {before : Entity} {changes : Attributes}
    (hbefore : s.find? before.kind before.id = some before)
    (hattributes : before.kind.validate (before.attributes.merge changes).toValue = .ok attributes)
    (hnow : clock.utc = .ok now) :
    let after := { before with attributes }
    let entry := newModification before after actor now
    Operation.within .transaction (alteration before.kind before.id changes actor clock) s =
      { result := .ok (after, entry), state := s.withUpdated after entry } :=
  Operation.within_of_ok (exec_alteration hbefore hattributes hnow) (publish_alteration hs _ _ _ _)

/-- On every storage, an update is the unit of work that writes, or it fails a check before. -/
theorem update_alike (kindValue : Value) (id : Int) (changes : Attributes) (actor? : Option Actor)
    (clock : Moment) :
    (∃ kind actor, Kind.ofValue kindValue = .ok kind ∧ actor? = some actor ∧
      ∀ {σ : Type} [UnitOfWork σ],
        (update kindValue id changes actor? clock : Operation σ Entity).Alike
          (Prod.fst <$> Operation.within .transaction (alteration kind id changes actor clock))) ∨
    ∃ e, (∀ s, updatedEntity s kindValue id changes actor? clock = .error e) ∧
      ∀ {σ : Type} [UnitOfWork σ],
        (update kindValue id changes actor? clock : Operation σ Entity).Alike
          (Operation.lift (.error e)) := by
  unfold update updatedEntity
  cases actor? with
  | none => exact .inr ⟨_, fun _ => rfl, .refl _⟩
  | some actor =>
    cases hkind : Kind.ofValue kindValue with
    | error e => exact .inr ⟨e, fun _ => rfl, .refl _⟩
    | ok kind =>
      refine .inl ⟨kind, actor, rfl, rfl, ?_⟩
      exact Operation.alike_log_map _ Prod.fst _ _ _

/-- An update either puts the changed entity and its modification in their places or fails one of
its checks, and then leaves the store as it was. -/
theorem update_cases (hs : s.Sound) (kindValue : Value) (id : Int) (changes : Attributes)
    (actor? : Option Actor) (clock : Moment) :
    (∃ before attributes actor now, Kind.ofValue kindValue = .ok before.kind ∧ before.id = id ∧
      s.find? before.kind before.id = some before ∧
      before.kind.validate (before.attributes.merge changes).toValue = .ok attributes ∧
      actor? = some actor ∧ clock.utc = .ok now ∧
      (update kindValue id changes actor? clock s).result = .ok { before with attributes } ∧
      (update kindValue id changes actor? clock s).state =
        s.withUpdated { before with attributes }
          (newModification before { before with attributes } actor now)) ∨
    ∃ e, updatedEntity s kindValue id changes actor? clock = .error e ∧
      (update kindValue id changes actor? clock s).result = .error e ∧
      (update kindValue id changes actor? clock s).state = s := by
  rcases update_alike kindValue id changes actor? clock with
    ⟨kind, actor, hkind, rfl, halike⟩ | ⟨e, hchecks, halike⟩
  · rw [(halike s).1, (halike s).2, Operation.map_result, Operation.map_state]
    rcases exec_alteration_cases s kind id changes actor clock with
      ⟨before, attributes, now, hbefore, hattributes, hnow⟩ | ⟨e, hfailed, he⟩
    · obtain rfl := hs.filed kind id before hbefore
      obtain rfl := EntityTable.id_of_get? hbefore
      rw [within_alteration hs actor hbefore hattributes hnow]
      exact .inl ⟨before, attributes, actor, now, hkind, rfl, hbefore, hattributes, rfl, hnow, rfl,
        rfl⟩
    · rw [Operation.within_of_error he]
      refine .inr ⟨e, ?_, rfl, rfl⟩
      simp [updatedEntity, requireActor, hkind, hfailed]
  · rw [(halike s).1, (halike s).2]
    exact .inr ⟨e, hchecks s, rfl, rfl⟩

theorem updatedEntity_of_valid {kindValue : Value} {before : Entity} {changes : Attributes}
    (actor : Actor) (hkind : Kind.ofValue kindValue = .ok before.kind)
    (hbefore : s.find? before.kind before.id = some before)
    (hvalid : before.kind.validate (before.attributes.merge changes).toValue = .ok attributes)
    (hnow : clock.utc = .ok now) :
    updatedEntity s kindValue before.id changes (some actor) clock =
      .ok { before with attributes } := by
  simp [updatedEntity, alteredEntity, requireActor, hkind, hbefore, hvalid, hnow]

/-- An update returns what its checks come to. -/
theorem update_result (hs : s.Sound) (kindValue : Value) (id : Int) (changes : Attributes)
    (actor? : Option Actor) (clock : Moment) :
    (update kindValue id changes actor? clock s).result =
      updatedEntity s kindValue id changes actor? clock := by
  rcases update_cases hs kindValue id changes actor? clock with
    ⟨before, attributes, actor, now, hkind, rfl, hbefore, hvalid, rfl, hnow, hresult, -⟩ |
    ⟨e, hchecks, hresult, -⟩
  · rw [hresult, updatedEntity_of_valid actor hkind hbefore hvalid hnow]
  · rw [hresult, hchecks]

end Service

end Chronicle
