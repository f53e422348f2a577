import Chronicle.Proofs.Service.Run

/-!
# The service on corresponding storages

The service reaches a storage only through units of work. So where the units of work of two storages
correspond, every call does: it comes to the same result on both and leaves corresponding states.
There is one rule for every way in which operations are put together, and a proof for every call.

## Main definitions

* `Operation.Simulates` — operations that come to the same on corresponding states.
* `UnitOfWork.Simulates` — storages whose units of work correspond.
* `Activity`, `Activity.step`, `afterAll` — calls and units of work of any kind, on any storage.

## Main statements

* `Call.perform_simulates` — calls on corresponding storages.
* `afterAll_simulates` — whole runs on corresponding storages.
-/

namespace Chronicle

variable {σ τ : Type} {R : σ → τ → Prop}

/-! ## Operations -/

/-- Whether two operations, on states that correspond, come to the same result and leave states that
correspond. -/
def Operation.Simulates {α : Type} (R : σ → τ → Prop) (x : Operation σ α) (y : Operation τ α) :
    Prop :=
  ∀ s t, R s t → (x s).result = (y t).result ∧ R (x s).state (y t).state

/-- Whether every unit of work, on states that correspond, ends in the same way and leaves states
that correspond. -/
def UnitOfWork.Simulates [UnitOfWork σ] [UnitOfWork τ] (R : σ → τ → Prop) : Prop :=
  ∀ {α : Type} (mode : Mode) (program : Program α) (failure? : α → Option Error) (s : σ) (t : τ),
    R s t →
      (run mode program failure? s).result = (run mode program failure? t).result ∧
      (run mode program failure? s).failure = (run mode program failure? t).failure ∧
      R (run mode program failure? s).state (run mode program failure? t).state

namespace Operation.Simulates

variable {α β : Type} {x : Operation σ α} {y : Operation τ α}

theorem pure (a : α) : Simulates R (Pure.pure a : Operation σ α) (Pure.pure a) :=
  fun _ _ h => ⟨rfl, h⟩

theorem lift (r : Except Error α) : Simulates R (liftM r : Operation σ α) (liftM r) :=
  fun _ _ h => ⟨rfl, h⟩

theorem log (level : Level) (event : String) (fields : List (String × Value)) :
    Simulates R (Operation.log level event fields) (Operation.log level event fields) :=
  fun _ _ h => ⟨rfl, h⟩

theorem bind {f : α → Operation σ β} {g : α → Operation τ β} (hx : Simulates R x y)
    (hf : ∀ a, Simulates R (f a) (g a)) : Simulates R (x >>= f) (y >>= g) := by
  intro s t h
  obtain ⟨hresult, hstate⟩ := hx s t h
  rw [bind_result, bind_result, bind_state, bind_state, ← hresult]
  cases (x s).result with
  | ok a => exact hf a _ _ hstate
  | error e => exact ⟨rfl, hstate⟩

theorem map (f : α → β) (hx : Simulates R x y) : Simulates R (f <$> x) (f <$> y) :=
  bind hx fun a => pure (f a)

variable [UnitOfWork σ] [UnitOfWork τ]

theorem within (hR : UnitOfWork.Simulates R) (mode : Mode) (b : Block α) :
    Simulates R (Operation.within mode b) (Operation.within mode b) := by
  intro s t h
  obtain ⟨hresult, hfailure, hstate⟩ := hR mode b.run Block.failure? s t h
  refine ⟨?_, hstate⟩
  simp only [Operation.within, Exit.outcome, hresult, hfailure]

end Operation.Simulates

/-! ## Calls -/

section Calls

variable [UnitOfWork σ] [UnitOfWork τ]

open Operation Operation.Simulates

namespace Service

theorem create_simulates (hR : UnitOfWork.Simulates R) (kind attributes : Value)
    (actor : Option Actor) (clock : Moment) :
    Simulates R (create kind attributes actor clock) (create kind attributes actor clock) := by
  refine .bind (.lift _) fun actor => .bind (.lift _) fun kind => ?_
  refine .bind (.lift _) fun attributes => .bind (.within hR _ _) fun entity => ?_
  exact .bind (.log _ _ _) fun _ => .pure entity

theorem update_simulates (hR : UnitOfWork.Simulates R) (kind : Value) (id : Int)
    (changes : Attributes) (actor : Option Actor) (clock : Moment) :
    Simulates R (update kind id changes actor clock) (update kind id changes actor clock) := by
  refine .bind (.lift _) fun actor => .bind (.lift _) fun kind => ?_
  refine .bind (.within hR _ _) fun written => ?_
  exact .bind (.log _ _ _) fun _ => .pure written.1

theorem get_simulates (hR : UnitOfWork.Simulates R) (kind : Value) (id : Int) :
    Simulates R (get kind id) (get kind id) := by
  refine .bind (.lift _) fun kind => .bind (.within hR _ _) fun found => ?_
  cases found with
  | some e => exact .pure e
  | none => exact .lift _

theorem auditTrail_simulates (hR : UnitOfWork.Simulates R) (kind : Value) (id : Int) :
    Simulates R (auditTrail kind id) (auditTrail kind id) :=
  .bind (.lift _) fun _ => .within hR _ _

theorem reconstructAt_simulates (hR : UnitOfWork.Simulates R) (kind : Value) (moment : Moment)
    (name : Option String) :
    Simulates R (reconstructAt kind moment name) (reconstructAt kind moment name) := by
  refine .bind (.lift _) fun kind => .bind (.lift _) fun name => .bind (.lift _) fun target => ?_
  refine .bind (.within hR _ _) fun found => .bind (.lift _) fun rows => ?_
  exact .bind (.log _ _ _) fun _ => .pure rows

/-- Movements are found by two reconstructions, so they correspond where reconstructions do. -/
theorem movements_simulates {kind : Value} {name : Option String}
    (hR : ∀ moment, Simulates R (reconstructAt kind moment name) (reconstructAt kind moment name))
    (source target : Moment) :
    Simulates R (movements kind source target name) (movements kind source target name) := by
  refine .bind (.lift _) fun start => .bind (.lift _) fun stop => ?_
  by_cases hempty : stop.micros ≤ start.micros
  · simp only [if_pos hempty]
    refine .bind (.lift _) fun _ => .bind (hR source) fun earlier => ?_
    exact .bind (hR target) fun later => .pure _
  · simp only [if_neg hempty]
    exact .bind (hR source) fun earlier => .bind (hR target) fun later => .pure _

end Service

/-- Where units of work correspond, calls do. -/
theorem Call.perform_simulates (hR : UnitOfWork.Simulates R) (c : Call) :
    Simulates R (c.perform : Operation σ Response) (c.perform : Operation τ Response) := by
  obtain ⟨request, clock⟩ := c
  cases request with
  | create kind attributes actor =>
    exact .map _ (Service.create_simulates hR kind attributes actor clock)
  | update kind id changes actor =>
    exact .map _ (Service.update_simulates hR kind id changes actor clock)
  | get kind id => exact .map _ (Service.get_simulates hR kind id)
  | auditTrail kind id => exact .map _ (Service.auditTrail_simulates hR kind id)
  | reconstructAt kind moment name =>
    exact .map _ (Service.reconstructAt_simulates hR kind moment name)
  | movements kind source target name =>
    refine .map _ (Service.movements_simulates (fun moment => ?_) source target)
    exact Service.reconstructAt_simulates hR kind moment name

end Calls

/-! ## Calls and other units of work -/

/-- What a storage is used for. -/
inductive Activity : Type 1 where
  /-- A call of the service. -/
  | call (c : Call)
  /-- A unit of work of any other kind. -/
  | work {α : Type} (mode : Mode) (program : Program α) (failure? : α → Option Error)

/-- The storage after an activity, be it successful or not. -/
def Activity.step [UnitOfWork σ] (s : σ) : Activity → σ
  | call c => c.step s
  | work mode program failure? => (UnitOfWork.run mode program failure? s).state

/-- The storage after a list of activities. -/
def afterAll [UnitOfWork σ] (s : σ) (activities : List Activity) : σ :=
  activities.foldl Activity.step s

section Activities

variable [UnitOfWork σ] [UnitOfWork τ] {s : σ} {t : τ}

theorem Activity.step_simulates (hR : UnitOfWork.Simulates R) (h : R s t) (a : Activity) :
    R (a.step s) (a.step t) := by
  cases a with
  | call c => exact (c.perform_simulates hR s t h).2
  | work mode program failure? => exact (hR mode program failure? s t h).2.2

/-- Where units of work correspond, whole runs do. -/
theorem afterAll_simulates (hR : UnitOfWork.Simulates R) (h : R s t)
    (activities : List Activity) : R (afterAll s activities) (afterAll t activities) := by
  induction activities generalizing s t with
  | nil => exact h
  | cons a rest ih => exact ih (a.step_simulates hR h)

end Activities

end Chronicle
