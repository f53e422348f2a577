import Chronicle.Proofs.Reconstruction.Divided

/-!
# Exactness of reconstruction

What a reconstruction derives from the present state and the logs is what the state was: the store
after the calls before a moment and the reconstruction at the moment, asked after all calls, have
the same entities with the same values of any attribute without a sentinel.

## Main statements

* `Divided.historical_eq_value` — a historical value is the value at the moment.
* `reconstructAt_exact` — reconstruction is exact in every run whose clock does not go back.
-/

namespace Chronicle

open Service

namespace Divided

variable {moment : Moment} {past present : Store} {ws vs : List Write} {kind : Kind} {id : Int}
  {name : String} {e₀ e : Entity}

/-- Without a sentinel, the historical value is the value that the entity had at the moment. -/
theorem historical_eq_value (h : Divided moment past present ws vs)
    (hpast : past.find? kind e.id = some e₀) (hpresent : present.find? kind e.id = some e)
    (hname : name ∈ kind.tracked) (hsentinel : kind.sentinel? name = none) :
    (rowFor (present.changesSince kind moment name) name e).historical = e₀.value name := by
  have hvalues := h.values_eq hpast hpresent hname
  obtain ⟨rest, hrest⟩ := exists_destutter_eq_cons (e₀.value name)
    ((life vs kind e.id).map (·.entity.value name))
  have hall : (recorded name (life vs kind e.id)).filter (Value.usable none) =
      recorded name (life vs kind e.id) := List.filter_eq_self.2 fun _ _ => rfl
  rw [hrest] at hvalues
  rw [h.historical_eq, hsentinel, hall]
  cases hrecorded : recorded name (life vs kind e.id) with
  | nil =>
    rw [hrecorded] at hvalues
    exact (List.cons.inj hvalues).1.symm
  | cons v values =>
    rw [hrecorded] at hvalues
    exact (List.cons.inj hvalues).1.symm

end Divided

/-- Reconstruction is exact. In a run whose clock does not go back, the ordering of a kind at a
moment by an attribute without a sentinel has one row for every entity that the calls before the
moment left, with the value that the attribute then had and with the present entity and value, in
the order of the historical values and ids. -/
theorem reconstructAt_exact {calls : List Call} (hclock : Chronological calls) {kind : Kind}
    {name : String} (hname : name ∈ kind.tracked) (hsentinel : kind.sentinel? name = none)
    {target : Moment} {t : WallTime} (ht : target.utc = .ok t) :
    let past := Store.empty.after (earlier target calls)
    let present := Store.empty.after calls
    ∃ rows, (reconstructAt (.text kind.name) target (some name) present).result = .ok rows ∧
      (rows.map HistoricalRow.entityId).Perm ((past.entities.get kind).rows.map (·.id)) ∧
      (∀ row ∈ rows, ∃ e, past.find? kind row.entityId = some e ∧ row.historical = e.value name ∧
        present.find? kind row.entityId = some row.entity ∧
        row.current = row.entity.value name) ∧
      rows.Pairwise (HistoricalRow.Precedes (kind.ranking? name)) := by
  intro past present
  have h := (hclock.divided target).naive ht
  obtain ⟨rows, hrows, hids, hsource, hordered⟩ := h.reconstructAt_ok hname ht
  refine ⟨rows, hrows, hids, fun row hrow => ?_, hordered⟩
  obtain ⟨e₀, e, hpast, hpresent, rfl⟩ := hsource row hrow
  exact ⟨e₀, hpast, h.historical_eq_value hpast hpresent hname hsentinel, hpresent, rfl⟩

theorem reconstructAt_exact_sampleRun :
    let target := Moment.naive ⟨15, by decide⟩
    let past := Store.empty.after (earlier target sampleRun)
    let present := Store.empty.after sampleRun
    Chronological sampleRun ∧ "name" ∈ Kind.demon.tracked ∧ Kind.demon.sentinel? "name" = none ∧
      target.utc = .ok ⟨15, by decide⟩ ∧
      ∃ rows,
        (reconstructAt (.text Kind.demon.name) target (some "name") present).result = .ok rows ∧
        (rows.map HistoricalRow.entityId).Perm ((past.entities.get .demon).rows.map (·.id)) ∧
        (∀ row ∈ rows, ∃ e, past.find? .demon row.entityId = some e ∧
          row.historical = e.value "name" ∧ present.find? .demon row.entityId = some row.entity ∧
          row.current = row.entity.value "name") ∧
        rows.Pairwise (HistoricalRow.Precedes (Kind.demon.ranking? "name")) := by
  intro target past present
  have hclock : Chronological sampleRun := by decide
  have hname : "name" ∈ Kind.demon.tracked := by decide
  exact ⟨hclock, hname, rfl, rfl, reconstructAt_exact hclock hname rfl rfl⟩

end Chronicle
