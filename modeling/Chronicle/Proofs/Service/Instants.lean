import Chronicle.Proofs.Service.Run
import Chronicle.Proofs.Time.Universal

/-!
# Only instants matter

An instant can be written as a reading of universal time, or as a reading of any other clock with
its offset. Every operation turns the moments that it is given, and the reading of the service's
clock, into universal time before it stores or compares them. So it does not matter how the instants
are written.

## Main definitions

* `Request.Restates`, `Call.Restates` — calls that name the same instants.

## Main statements

* `Moment.utc_congr` — moments of one instant have the same reading in universal time.
* `Call.perform_congr`, `Call.step_congr` — calls that name the same instants are the same
  operation.
* `run_congr_instants` — runs whose calls name the same instants.
-/

namespace Chronicle

/-! ## Moments of one instant -/

namespace Moment

variable {m m' : Moment}

theorem utc_congr (h : m.instant = m'.instant) : m.utc = m'.utc := by
  rw [utc_eq_ofMicros?, utc_eq_ofMicros?, h]

theorem toNaive_congr (h : m.instant = m'.instant) : m.toNaive = m'.toNaive := by
  rw [toNaive, toNaive, utc_congr h]

end Moment

/-! ## Operations that name the same instants -/

namespace Service

variable {σ : Type} [UnitOfWork σ] {clock clock' moment moment' source source' target target' :
  Moment}

theorem create_congr (kind attributes : Value) (actor : Option Actor)
    (h : clock.instant = clock'.instant) :
    (create kind attributes actor clock : Operation σ Entity) =
      create kind attributes actor clock' := by
  have hcreation : ∀ kind attributes actor,
      creation kind attributes actor clock = creation kind attributes actor clock' := by
    intro kind attributes actor
    simp only [creation, Moment.toNaive_congr h]
  simp only [create, hcreation]

theorem update_congr (kind : Value) (id : Int) (changes : Attributes) (actor : Option Actor)
    (h : clock.instant = clock'.instant) :
    (update kind id changes actor clock : Operation σ Entity) =
      update kind id changes actor clock' := by
  have halteration : ∀ kind actor,
      alteration kind id changes actor clock = alteration kind id changes actor clock' := by
    intro kind actor
    simp only [alteration, Moment.toNaive_congr h]
  simp only [update, halteration]

theorem reconstructAt_congr (kind : Value) (name : Option String)
    (h : moment.instant = moment'.instant) :
    (reconstructAt kind moment name : Operation σ (List HistoricalRow)) =
      reconstructAt kind moment' name := by
  simp only [reconstructAt, Moment.toNaive_congr h]

theorem movements_congr (kind : Value) (name : Option String)
    (hsource : source.instant = source'.instant) (htarget : target.instant = target'.instant) :
    (movements kind source target name : Operation σ Movements) =
      movements kind source' target' name := by
  simp only [movements, Moment.utc_congr hsource, Moment.utc_congr htarget,
    reconstructAt_congr kind name hsource, reconstructAt_congr kind name htarget]

end Service

/-! ## Calls that name the same instants -/

/-- Whether two requests differ at most in how the instants that they name are written. -/
inductive Request.Restates : Request → Request → Prop
  | create (kind attributes : Value) (actor : Option Actor) :
    Restates (.create kind attributes actor) (.create kind attributes actor)
  | update (kind : Value) (id : Int) (changes : Attributes) (actor : Option Actor) :
    Restates (.update kind id changes actor) (.update kind id changes actor)
  | get (kind : Value) (id : Int) : Restates (.get kind id) (.get kind id)
  | auditTrail (kind : Value) (id : Int) : Restates (.auditTrail kind id) (.auditTrail kind id)
  | reconstructAt (kind : Value) {moment moment' : Moment} (name : Option String)
    (h : moment.instant = moment'.instant) :
    Restates (.reconstructAt kind moment name) (.reconstructAt kind moment' name)
  | movements (kind : Value) {source target source' target' : Moment} (name : Option String)
    (hsource : source.instant = source'.instant) (htarget : target.instant = target'.instant) :
    Restates (.movements kind source target name) (.movements kind source' target' name)

/-- Whether two calls differ at most in how the instants that they name are written, the readings of
the service's clock included. -/
structure Call.Restates (c d : Call) : Prop where
  request : c.request.Restates d.request
  clock : c.clock.instant = d.clock.instant

/-- Calls that name the same instants are the same operation, on every storage. -/
theorem Call.perform_congr {σ : Type} [UnitOfWork σ] {c d : Call} (h : c.Restates d) :
    (c.perform : Operation σ Response) = d.perform := by
  obtain ⟨request, clock⟩ := c
  obtain ⟨request', clock'⟩ := d
  obtain ⟨hrequest, hclock⟩ := h
  cases hrequest with
  | create kind attributes actor =>
    exact congrArg (Response.entity <$> ·) (Service.create_congr kind attributes actor hclock)
  | update kind id changes actor =>
    exact congrArg (Response.entity <$> ·) (Service.update_congr kind id changes actor hclock)
  | get | auditTrail => rfl
  | reconstructAt kind name hmoment =>
    exact congrArg (Response.rows <$> ·) (Service.reconstructAt_congr kind name hmoment)
  | movements kind name hsource htarget =>
    exact congrArg (Response.movements <$> ·) (Service.movements_congr kind name hsource htarget)

theorem Call.step_congr {σ : Type} [UnitOfWork σ] {c d : Call} (h : c.Restates d) (u : σ) :
    c.step u = d.step u := by
  rw [step, step, perform_congr h]

/-! ## Runs that name the same instants -/

section Runs

variable {τ : Type} [UnitOfWork τ] {calls more : List Call}

theorem answers_congr (h : List.Forall₂ Call.Restates calls more) (u : τ) :
    answers u calls = answers u more := by
  induction h generalizing u with
  | nil => rfl
  | cons hc _ ih => rw [answers, answers, Call.perform_congr hc, Call.step_congr hc, ih]

theorem stateAfter_congr (h : List.Forall₂ Call.Restates calls more) (u : τ) :
    stateAfter u calls = stateAfter u more := by
  induction h generalizing u with
  | nil => rfl
  | cons hc _ ih => rw [stateAfter_cons, stateAfter_cons, Call.step_congr hc, ih]

/-- Only instants matter. Two runs whose calls name the same instants, one after another, are
answered alike, with the same results and the same failures, and leave the same storage after every
call. An instant may be written as a reading of any clock with its offset or as one of universal
time without; it need not even lie in the calendar. -/
theorem run_congr_instants (h : List.Forall₂ Call.Restates calls more) (u : τ) :
    answers u calls = answers u more ∧
      ∀ n, stateAfter u (calls.take n) = stateAfter u (more.take n) :=
  ⟨answers_congr h u, fun n => stateAfter_congr (List.forall₂_take n h) u⟩

end Runs

/-- The sample run, and then the list between two of its writes and what changed on the list. -/
def sampleReads : List Call := sampleRun ++ [
  { request := .reconstructAt (.text "demon") (.naive ⟨17, by decide⟩)
      (some Service.standardOrder)
    clock := .naive ⟨47, by decide⟩ },
  { request := .movements (.text "demon") (.naive ⟨17, by decide⟩) (.naive ⟨37, by decide⟩)
      (some Service.standardOrder)
    clock := .naive ⟨47, by decide⟩ }]

/-- The same calls, on clocks an hour to the east and some microseconds to the east and west. -/
def restatedReads : List Call :=
  sampleRun.zipWith (fun c clock => { c with clock }) [
    .aware ⟨3600000010, by decide⟩ 3600000000, .aware ⟨4, by decide⟩ (-16),
    .aware ⟨33, by decide⟩ 3] ++ [
  { request := .reconstructAt (.text "demon") (.aware ⟨3600000017, by decide⟩ 3600000000)
      (some Service.standardOrder)
    clock := .aware ⟨3, by decide⟩ (-44) },
  { request := .movements (.text "demon") (.aware ⟨7, by decide⟩ (-10))
      (.aware ⟨3600000037, by decide⟩ 3600000000) (some Service.standardOrder)
    clock := .naive ⟨47, by decide⟩ }]

/-- On other clocks, too, the writes and both reads of the past succeed, with the same results. -/
theorem run_congr_instants_sampleReads :
    List.Forall₂ Call.Restates sampleReads restatedReads ∧
      (∀ r ∈ answers Store.empty sampleReads, r.isOk = true) ∧
      answers Store.empty sampleReads = answers Store.empty restatedReads ∧
      ∀ n, stateAfter Store.empty (sampleReads.take n) =
        stateAfter Store.empty (restatedReads.take n) := by
  have h : List.Forall₂ Call.Restates sampleReads restatedReads :=
    .cons ⟨.create .., rfl⟩ <| .cons ⟨.update .., rfl⟩ <| .cons ⟨.update .., rfl⟩ <|
      .cons ⟨.reconstructAt _ _ rfl, rfl⟩ <| .cons ⟨.movements _ _ rfl rfl, rfl⟩ .nil
  exact ⟨h, by decide +kernel, run_congr_instants h Store.empty⟩

end Chronicle
