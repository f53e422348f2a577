import Chronicle.Proofs.Service.Operation
import Chronicle.Service.Read

/-!
# What reads keep

All reads of the service run in snapshots. So a relation between a storage and what a snapshot
leaves of it holds between the storage and what a read leaves of it, on every storage.

## Main definitions

* `Operation.Keeps` — operations that leave a storage that a relation holds to.
* `KeptBySnapshots` — relations between a storage and what a snapshot leaves of it.

## Main statements

* `Service.get_keeps`, `Service.auditTrail_keeps`, `Service.reconstructAt_keeps`,
  `Service.movements_keeps` — what every snapshot keeps, every read keeps.
* `keptBySnapshots_store` — a snapshot leaves a store in memory as it was.
-/

namespace Chronicle

/-! ## Reads of the service -/

/-- Whether an operation leaves a storage that a relation holds to. -/
def Operation.Keeps {σ α : Type} (E : σ → σ → Prop) (x : Operation σ α) : Prop :=
  ∀ s, E s (x s).state

/-- Whether a relation holds between a storage and what a snapshot leaves of it, and of storages in
a row. -/
structure KeptBySnapshots {σ : Type} [UnitOfWork σ] (E : σ → σ → Prop) : Prop where
  refl : ∀ s, E s s
  trans : ∀ {s t u}, E s t → E t u → E s u
  snapshot : ∀ {α : Type} (program : Program α) (failure? : α → Option Error) (s : σ),
    E s (UnitOfWork.run .snapshot program failure? s).state

namespace Operation.Keeps

variable {σ α β : Type} [UnitOfWork σ] {E : σ → σ → Prop} (hE : KeptBySnapshots E)

include hE

theorem pure (a : α) : Keeps E (Pure.pure a : Operation σ α) := hE.refl

theorem lift (r : Except Error α) : Keeps E (liftM r : Operation σ α) := hE.refl

theorem log (level : Level) (event : String) (fields : List (String × Value)) :
    Keeps E (Operation.log level event fields : Operation σ Unit) := hE.refl

theorem bind {x : Operation σ α} {f : α → Operation σ β} (hx : Keeps E x)
    (hf : ∀ a, Keeps E (f a)) : Keeps E (x >>= f) := by
  intro s
  rw [bind_state]
  split
  · exact hE.trans (hx s) (hf _ _)
  · exact hx s

theorem map {x : Operation σ α} (f : α → β) (hx : Keeps E x) : Keeps E (f <$> x) :=
  bind hE hx fun a => pure hE (f a)

theorem within (b : Block α) : Keeps E (Operation.within .snapshot b : Operation σ α) :=
  hE.snapshot b.run Block.failure?

end Operation.Keeps

section Reads

variable {σ : Type} [UnitOfWork σ] {E : σ → σ → Prop} (hE : KeptBySnapshots E)

include hE

open Operation Operation.Keeps

namespace Service

theorem get_keeps (kind : Value) (id : Int) : Keeps E (get kind id) := by
  refine .bind hE (.lift hE _) fun kind => .bind hE (.within hE _) fun found => ?_
  cases found with
  | some e => exact .pure hE e
  | none => exact .lift hE _

theorem auditTrail_keeps (kind : Value) (id : Int) : Keeps E (auditTrail kind id) :=
  .bind hE (.lift hE _) fun _ => .within hE _

theorem reconstructAt_keeps (kind : Value) (moment : Moment) (name : Option String) :
    Keeps E (reconstructAt kind moment name) := by
  refine .bind hE (.lift hE _) fun kind => .bind hE (.lift hE _) fun name => ?_
  refine .bind hE (.lift hE _) fun target => .bind hE (.within hE _) fun found => ?_
  exact .bind hE (.lift hE _) fun rows => .bind hE (.log hE _ _ _) fun _ => .pure hE rows

theorem movements_keeps (kind : Value) (source target : Moment) (name : Option String) :
    Keeps E (movements kind source target name) := by
  have hrest : Keeps E (do
      let earlier ← reconstructAt kind source name
      let later ← reconstructAt kind target name
      return Chronicle.movements earlier later) := by
    refine .bind hE (reconstructAt_keeps hE kind source name) fun earlier => ?_
    exact .bind hE (reconstructAt_keeps hE kind target name) fun later => .pure hE _
  refine .bind hE (.lift hE _) fun start => .bind hE (.lift hE _) fun stop => ?_
  by_cases hempty : stop.micros ≤ start.micros
  · simp only [if_pos hempty]
    exact .bind hE (.lift hE _) fun _ => hrest
  · simp only [if_neg hempty]
    exact hrest

end Service

end Reads

/-! ## Stores in memory -/

/-- A snapshot leaves a store in memory as it was. -/
theorem keptBySnapshots_store : KeptBySnapshots fun s t : Store => t = s where
  refl _ := rfl
  trans h h' := h'.trans h
  snapshot := Store.state_snapshot

/-- What leaves every store as it was is read-only. -/
theorem Operation.readOnly_of_keeps {α : Type} {x : Operation Store α}
    (h : x.Keeps fun s t => t = s) : x.ReadOnly := fun _ s hs => (h s).symm ▸ hs

end Chronicle
