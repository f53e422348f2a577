import Chronicle.Proofs.Storage.Taken

/-!
# What steps have written

A step that succeeds writes one entity, appends one log entry, or only reads; a step that fails does
nothing. So what a transaction has staged can be read off the steps that it took.

## Main definitions

* `Taken.written?`, `Taken.modification?`, `Taken.addition?` — what a step has written.
* `Taken.overwrite` — what is seen of the entities once a step has written.
* `Staging.Stages`, `Staging.SameStaged` — transactions before and after a step.

## Main statements

* `Staging.stages_perform` — a step stages what it writes.
* `Staging.sameStaged_of_error` — a step that fails stages nothing.
* `Staging.modifications_run`, `Staging.additions_run` — the log entries that a program stages.
-/

namespace Chronicle

/-! ## Steps -/

namespace Taken

/-- The entity that a step has written. -/
def written? : Taken → Option Entity
  | ⟨.insertEntity .., .ok e⟩ => some e
  | ⟨.saveEntity e, .ok ()⟩ => some e
  | _ => none

/-- The modification that a step has appended. -/
def modification? : Taken → Option Modification
  | ⟨.appendModification m, .ok ()⟩ => some m
  | _ => none

/-- The addition that a step has appended. -/
def addition? : Taken → Option Addition
  | ⟨.appendAddition a, .ok ()⟩ => some a
  | _ => none

/-- A step that fails has written nothing. -/
theorem written_of_error {x : Taken} {e : Error} (h : x.answer = .error e) :
    x.written? = none ∧ x.modification? = none ∧ x.addition? = none := by
  obtain ⟨step, answer⟩ := x
  obtain rfl : answer = .error e := h
  cases step <;> exact ⟨rfl, rfl, rfl⟩

/-- What is seen of the entities once a step has written. -/
def overwrite (view : Kind → Int → Option Entity) (x : Taken) : Kind → Int → Option Entity :=
  match x.written? with
  | some e => fun kind id => if kind = e.kind ∧ id = e.id then some e else view kind id
  | none => view

end Taken

/-- Whether a step appends no log entry that knows the offset of its clock. -/
def Step.Naive : Step → Prop
  | appendModification m => m.timestamp.isAware = false
  | appendAddition a => a.timestamp.isAware = false
  | _ => True

theorem Script.naive_of_mem_takenWith {σ : Type} {steps : List ScriptStep}
    {perform : σ → (s : Step) → Except Error s.Answer × σ} {state : σ}
    (h : ∀ step ∈ steps, ∀ s, step.action = .ok s → s.Naive) {x : Taken}
    (hx : x ∈ (program steps).takenWith perform state) : x.step.Naive := by
  obtain ⟨step, hstep, haction⟩ := exists_of_mem_takenWith hx
  exact h step hstep x.step haction

namespace Taken

variable {x : Taken} {taken : List Taken}

theorem isAware_of_modification? {m : Modification} (hx : x.step.Naive)
    (h : x.modification? = some m) : m.timestamp.isAware = false := by
  unfold modification? at h
  split at h
  · cases h
    exact hx
  · cases h

theorem isAware_of_addition? {a : Addition} (hx : x.step.Naive) (h : x.addition? = some a) :
    a.timestamp.isAware = false := by
  unfold addition? at h
  split at h
  · cases h
    exact hx
  · cases h

theorem isAware_of_mem_modifications (h : ∀ x ∈ taken, x.step.Naive) :
    ∀ m ∈ taken.filterMap modification?, m.timestamp.isAware = false := by
  intro m hm
  obtain ⟨x, hx, hxm⟩ := List.mem_filterMap.1 hm
  exact isAware_of_modification? (h x hx) hxm

theorem isAware_of_mem_additions (h : ∀ x ∈ taken, x.step.Naive) :
    ∀ a ∈ taken.filterMap addition?, a.timestamp.isAware = false := by
  intro a ha
  obtain ⟨x, hx, hxa⟩ := List.mem_filterMap.1 ha
  exact isAware_of_addition? (h x hx) hxa

end Taken

namespace Staging

variable {α : Type}

/-- Whether a transaction has staged what a step has written, and nothing else. -/
structure Stages (st st' : Staging) (x : Taken) : Prop where
  entities : st'.entities = x.written?.elim st.entities fun e => (st.stage e).entities
  modifications : st'.modifications = st.modifications ++ x.modification?.toList
  additions : st'.additions = st.additions ++ x.addition?.toList

theorem Stages.nothing {st st' : Staging} {x : Taken} (hentities : st'.entities = st.entities)
    (hmodifications : st'.modifications = st.modifications)
    (hadditions : st'.additions = st.additions)
    (hx : x.written? = none ∧ x.modification? = none ∧ x.addition? = none) :
    st.Stages st' x where
  entities := by simp [hx, hentities]
  modifications := by simp [hx, hmodifications]
  additions := by simp [hx, hadditions]

theorem stages_insert (st : Staging) (kind : Kind) (attributes : Value) :
    st.Stages (st.insert kind attributes).2
      ⟨.insertEntity kind attributes, (st.insert kind attributes).1⟩ := by
  unfold insert
  cases Attributes.ofValue? attributes with
  | none => exact .nothing rfl rfl rfl (Taken.written_of_error rfl)
  | some attributes => exact ⟨rfl, (List.append_nil _).symm, (List.append_nil _).symm⟩

/-- A step stages what it writes. -/
theorem stages_perform (st : Staging) (step : Step) :
    st.Stages (st.perform step).2 ⟨step, (st.perform step).1⟩ := by
  cases step with
  | getEntity | listEntities | modifications | additions =>
    exact .nothing rfl rfl rfl ⟨rfl, rfl, rfl⟩
  | insertEntity kind attributes =>
    simp only [perform]
    split
    · exact .nothing rfl rfl rfl (Taken.written_of_error rfl)
    · exact st.stages_insert kind attributes
  | saveEntity | appendModification | appendAddition =>
    simp only [perform]
    split
    · exact .nothing rfl rfl rfl (Taken.written_of_error rfl)
    · split
      · exact .nothing rfl rfl rfl (Taken.written_of_error rfl)
      · constructor <;> simp [Taken.written?, Taken.modification?, Taken.addition?, stage]

/-- Whether two transactions have staged the same. -/
structure SameStaged (st st' : Staging) : Prop where
  entities : st'.entities = st.entities
  modifications : st'.modifications = st.modifications
  additions : st'.additions = st.additions

/-- A step that fails stages nothing. -/
theorem sameStaged_of_error {st : Staging} {step : Step} {e : Error}
    (h : (st.perform step).1 = .error e) : st.SameStaged (st.perform step).2 := by
  obtain ⟨hentities, hmodifications, hadditions⟩ := st.stages_perform step
  obtain ⟨hwritten, hmodification, haddition⟩ :=
    Taken.written_of_error (x := ⟨step, (st.perform step).1⟩) h
  constructor
  · rw [hentities, hwritten, Option.elim_none]
  · rw [hmodifications, hmodification, Option.toList_none, List.append_nil]
  · rw [hadditions, haddition, Option.toList_none, List.append_nil]

/-- A program stages the modifications that its steps append, in their order. -/
theorem modifications_run (program : Program α) (s : Store) (mode : Mode) :
    (run program (.start s mode)).2.modifications =
      (program.takenWith perform (.start s mode)).filterMap Taken.modification? := by
  rw [run_eq_runWith]
  exact Program.collect_runWith (fun st step => (st.stages_perform step).modifications) program _

/-- A program stages the additions that its steps append, in their order. -/
theorem additions_run (program : Program α) (s : Store) (mode : Mode) :
    (run program (.start s mode)).2.additions =
      (program.takenWith perform (.start s mode)).filterMap Taken.addition? := by
  rw [run_eq_runWith]
  exact Program.collect_runWith (fun st step => (st.stages_perform step).additions) program _

end Staging

end Chronicle
