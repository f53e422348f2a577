import Chronicle.Proofs.Storage.Execution
import Mathlib.Data.List.Basic

/-!
# Programs step by step

A storage carries a program out step by step. What it is told by is how it takes one step; what a
program comes to, and which steps it takes with which answers, follow by induction on the program.

## Main definitions

* `Taken` — a step with what it was answered.
* `Program.runWith`, `Program.takenWith` — a program whose steps are taken by a function.

## Main statements

* `Program.runWith_alike` — a program where steps are answered alike.
* `Program.see_runWith` — what can be seen after a program follows from the steps that it took.
* `Program.collect_runWith` — what the steps of a program have added to a list.
* `Program.exists_of_takenWith` — where a step of a program was taken.
-/

namespace Chronicle

/-- A step that has been taken, with what it was answered. -/
structure Taken where
  step : Step
  answer : Except Error step.Answer

namespace Program

variable {α σ τ γ : Type} {perform : σ → (s : Step) → Except Error s.Answer × σ}
  {perform' : τ → (s : Step) → Except Error s.Answer × τ}

/-- What a program comes to where its steps are taken by a function, and what that leaves. -/
def runWith (perform : σ → (s : Step) → Except Error s.Answer × σ) : Program α → σ → α × σ
  | done a, state => (a, state)
  | step s next, state => runWith perform (next (perform state s).1) (perform state s).2

/-- The steps that a program takes, with what they are answered. -/
def takenWith (perform : σ → (s : Step) → Except Error s.Answer × σ) : Program α → σ → List Taken
  | done _, _ => []
  | step s next, state =>
    ⟨s, (perform state s).1⟩ :: takenWith perform (next (perform state s).1) (perform state s).2

/-- Where steps are answered alike, programs come to the same by the same steps. -/
theorem runWith_alike {R : σ → τ → Prop}
    (hR : ∀ state state' s, R state state' →
      (perform state s).1 = (perform' state' s).1 ∧ R (perform state s).2 (perform' state' s).2)
    (p : Program α) {state : σ} {state' : τ} (h : R state state') :
    (p.runWith perform state).1 = (p.runWith perform' state').1 ∧
      p.takenWith perform state = p.takenWith perform' state' ∧
      R (p.runWith perform state).2 (p.runWith perform' state').2 := by
  induction p generalizing state state' with
  | done a => exact ⟨rfl, rfl, h⟩
  | step s next ih =>
    obtain ⟨hanswer, hstate⟩ := hR state state' s h
    rw [runWith, runWith, takenWith, takenWith, ← hanswer]
    obtain ⟨hresult, htaken, hlast⟩ := ih (perform state s).1 hstate
    exact ⟨hresult, congrArg _ htaken, hlast⟩

section See

variable {see : σ → γ} {act : γ → Taken → γ}

/-- What can be seen after a program follows from the steps that it took, if it does for every
step. -/
theorem see_runWith
    (hact : ∀ state s, see (perform state s).2 = act (see state) ⟨s, (perform state s).1⟩)
    (p : Program α) (state : σ) :
    see (p.runWith perform state).2 = (p.takenWith perform state).foldl act (see state) := by
  induction p generalizing state with
  | done a => rfl
  | step s next ih => rw [runWith, takenWith, ih, hact, List.foldl_cons]

/-- What is seen as a list that steps add to is, after a program, what its steps have added. -/
theorem collect_runWith {β : Type} {see : σ → List β} {f : Taken → Option β}
    (hf : ∀ state s, see (perform state s).2 = see state ++ (f ⟨s, (perform state s).1⟩).toList)
    (p : Program α) (state : σ) :
    see (p.runWith perform state).2 = see state ++ (p.takenWith perform state).filterMap f := by
  have hsee : see (p.runWith perform state).2 =
      (p.takenWith perform state).foldl (fun seen x => seen ++ (f x).toList) (see state) :=
    see_runWith hf p state
  rw [hsee, List.foldl_append_eq_append, List.filterMap_eq_flatMap_toList, List.flatMap_def]

/-- A step of a program was taken where the steps before it had led. -/
theorem exists_of_takenWith
    (hact : ∀ state s, see (perform state s).2 = act (see state) ⟨s, (perform state s).1⟩)
    {p : Program α} {state : σ} {earlier later : List Taken} {x : Taken}
    (h : p.takenWith perform state = earlier ++ x :: later) :
    ∃ state', see state' = earlier.foldl act (see state) ∧
      x = ⟨x.step, (perform state' x.step).1⟩ := by
  induction p generalizing state earlier with
  | done a => simp [takenWith] at h
  | step s next ih =>
    rw [takenWith] at h
    cases earlier with
    | nil =>
      obtain ⟨rfl, -⟩ := List.cons.inj h
      exact ⟨state, rfl, rfl⟩
    | cons first rest =>
      obtain ⟨rfl, hrest⟩ := List.cons.inj h
      obtain ⟨state', hsee, hx⟩ := ih _ hrest
      exact ⟨state', by rw [hsee, hact, List.foldl_cons], hx⟩

end See

end Program

/-! ## Scripts -/

/-- A staging carries a program out step by step. -/
theorem Staging.run_eq_runWith {α : Type} (p : Program α) (st : Staging) :
    run p st = p.runWith perform st := by
  induction p generalizing st with
  | done a => rfl
  | step s next ih => exact ih _ _

namespace Script

variable {σ : Type} {perform : σ → (s : Step) → Except Error s.Answer × σ} {x : Taken}

/-- What is made of the result of a program takes no steps. -/
theorem takenWith_after (p : Program Report) (reply : Except Error Reply) (state : σ) :
    Program.takenWith perform (do return (← p).after reply) state = p.takenWith perform state := by
  induction p generalizing state with
  | done report => rfl
  | step s next ih => exact congrArg _ (ih _ _)

/-- A script takes no steps but its own. -/
theorem exists_of_mem_takenWith {steps : List ScriptStep} {state : σ}
    (hx : x ∈ (program steps).takenWith perform state) :
    ∃ step ∈ steps, step.action = .ok x.step := by
  induction steps generalizing state with
  | nil => cases hx
  | cons first rest ih =>
    have hrest : ∀ {state}, x ∈ (program rest).takenWith perform state →
        ∃ step ∈ first :: rest, step.action = .ok x.step := by
      intro state hx
      obtain ⟨step, hstep, haction⟩ := ih hx
      exact ⟨step, List.mem_cons_of_mem first hstep, haction⟩
    have hfailed : ∀ {e state}, x ∈ Program.takenWith perform
        (if first.caught then do return (← program rest).after (.error e)
          else return ⟨[.error e], some e⟩) state →
        ∃ step ∈ first :: rest, step.action = .ok x.step := by
      intro e state hx
      split at hx
      · rw [takenWith_after] at hx
        exact hrest hx
      · cases hx
    rw [program] at hx
    cases haction : first.action with
    | error e =>
      rw [haction] at hx
      exact hfailed hx
    | ok step =>
      rw [haction] at hx
      rcases List.mem_cons.1 hx with rfl | hx
      · exact ⟨first, List.mem_cons_self, haction⟩
      · cases hanswer : (perform state step).1 with
        | ok answer =>
          rw [hanswer, takenWith_after] at hx
          exact hrest hx
        | error e =>
          rw [hanswer] at hx
          exact hfailed hx

end Script

end Chronicle
