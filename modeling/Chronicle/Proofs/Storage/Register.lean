import Chronicle.Proofs.Storage.Effect

/-!
# A register of the ids that are handed out

A register is a store together with the entities that its units of work were answered for
insertions, in the order of the answers, whatever became of the units of work. The ids are taken
from a counter of the store that no failure sets back, so those of one kind increase.

## Main definitions

* `Issues` — entities with increasing ids between two states of the counters.
* `Staging.insertions` — what the steps of a program were answered for insertions.
* `Register`, `Register.run` — stores that register insertions.

## Main statements

* `Staging.issues_run` — the ids that a program takes.
* `Store.issues_run` — the ids that a unit of work takes.
-/

namespace Chronicle

/-! ## Increasing ids -/

/-- Whether entities have ids between two states of the counters, with those of one kind increasing
from one entity to the next. -/
structure Issues (before after : ByKind Int) (es : List Entity) : Prop where
  le : ∀ kind, before.get kind ≤ after.get kind
  bounds : ∀ e ∈ es, before.get e.kind ≤ e.id ∧ e.id < after.get e.kind
  increasing : es.Pairwise fun a b => a.kind = b.kind → a.id < b.id

namespace Issues

variable {first second third : ByKind Int} {es fs : List Entity}

theorem none (h : ∀ kind, first.get kind ≤ second.get kind) : Issues first second [] :=
  ⟨h, fun _ he => absurd he List.not_mem_nil, .nil⟩

theorem refl (counters : ByKind Int) : Issues counters counters [] := none fun _ => Int.le_refl _

/-- What is issued later has larger ids. -/
theorem append (h : Issues first second es) (h' : Issues second third fs) :
    Issues first third (es ++ fs) where
  le kind := Int.le_trans (h.le kind) (h'.le kind)
  bounds := by
    refine List.forall_mem_append.2 ⟨fun e he => ?_, fun f hf => ?_⟩
    · exact ⟨(h.bounds e he).1, Int.lt_of_lt_of_le (h.bounds e he).2 (h'.le _)⟩
    · exact ⟨Int.le_trans (h.le _) (h'.bounds f hf).1, (h'.bounds f hf).2⟩
  increasing := by
    refine List.pairwise_append.2 ⟨h.increasing, h'.increasing, fun e he f hf hkind => ?_⟩
    have hlt := (h.bounds e he).2
    have hle := (h'.bounds f hf).1
    rw [← hkind] at hle
    exact Int.lt_of_lt_of_le hlt hle

end Issues

/-! ## Insertions -/

/-- The entity that a step was answered, if it is an insertion. -/
def Step.inserted : (s : Step) → Except Error s.Answer → List Entity
  | insertEntity .., .ok e => [e]
  | _, _ => []

namespace Staging

/-- What the steps of a program were answered for insertions. -/
def insertions {α : Type} : Program α → Staging → List Entity
  | .done _, _ => []
  | .step s next, st =>
    let (answer, st) := st.perform s
    s.inserted answer ++ insertions (next answer) st

/-- An insertion takes the next id of its kind, also if it is refused. -/
theorem issues_insert (st : Staging) (kind : Kind) (attributes : Value) :
    Issues st.store.nextIds (st.insert kind attributes).2.store.nextIds
      ((Step.insertEntity kind attributes).inserted (st.insert kind attributes).1) := by
  have hle := st.store.nextIds.get_le_modify_succ kind
  unfold insert
  cases Attributes.ofValue? attributes with
  | none => exact .none hle
  | some attributes =>
    refine ⟨hle, List.forall_mem_singleton.2 ⟨Int.le_refl _, ?_⟩, List.pairwise_singleton ..⟩
    change st.store.nextIds.get kind < (st.store.nextIds.modify kind (· + 1)).get kind
    rw [ByKind.get_modify_self]
    exact Int.lt_succ _

theorem issues_perform (st : Staging) (s : Step) :
    Issues st.store.nextIds (st.perform s).2.store.nextIds (s.inserted (st.perform s).1) := by
  cases s with
  | getEntity | listEntities | modifications | additions => exact .refl _
  | insertEntity kind attributes =>
    simp only [perform]
    split
    · exact .refl _
    · exact issues_insert st kind attributes
  | saveEntity | appendModification | appendAddition =>
    simp only [perform]
    split
    · exact .refl _
    · split <;> exact .refl _

/-- The ids that a program takes. -/
theorem issues_run {α : Type} (p : Program α) (st : Staging) :
    Issues st.store.nextIds (run p st).2.store.nextIds (insertions p st) := by
  induction p generalizing st with
  | done a => exact .refl _
  | step s next ih => exact (issues_perform st s).append (ih _ _)

theorem nextIds_publish (st : Staging) : st.publish.1.nextIds = st.store.nextIds := by
  obtain ⟨additions, -, hstore⟩ := st.publish_store
  rw [hstore]

end Staging

/-- The ids that a unit of work takes, however it ends. -/
theorem Store.issues_run {α : Type} (mode : Mode) (program : Program α)
    (failure? : α → Option Error) (s : Store) :
    Issues s.nextIds (run mode program failure? s).state.nextIds
      (Staging.insertions program (.start s mode)) := by
  have hissues := Staging.issues_run program (.start s mode)
  rcases state_run mode program failure? s with hstate | hstate
  · exact hstate ▸ hissues
  · rw [hstate, Staging.nextIds_publish]
    exact hissues

/-! ## Registers -/

/-- A store and the entities that it answered for insertions, in the order of the answers. -/
structure Register where
  store : Store
  issued : List Entity

namespace Register

def empty : Register := ⟨.empty, []⟩

/-- A unit of work on the store; what it was answered for insertions is registered. -/
def run {α : Type} (mode : Mode) (program : Program α) (failure? : α → Option Error)
    (r : Register) : Exit Register α :=
  let exit := Store.run mode program failure? r.store
  let insertions := Staging.insertions program (.start r.store mode)
  { exit with state := { store := exit.state, issued := r.issued ++ insertions } }

instance : UnitOfWork Register where
  run := Register.run

end Register

end Chronicle
