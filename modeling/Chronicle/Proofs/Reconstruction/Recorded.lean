import Chronicle.Proofs.Service.Chronology
import Mathlib.Data.List.Destutter

/-!
# Recorded values

The writes of one entity record the previous value of an attribute whenever they change it. What
they record, and then the present value, are the values that the attribute took one after the other,
repetitions apart.

## Main definitions

* `recorded` — the previous values of an attribute that writes recorded.

## Main statements

* `destutter_values` — recorded values and the present value are the values taken.
-/

namespace Chronicle

open Service

/-- The previous values of an attribute that writes recorded, in the order of the writes. -/
def recorded (name : String) (ws : List Write) : List Value :=
  (ws.filterMap Write.modification?).filterMap (·.diffs.get? name)

theorem Attributes.differsAt_iff (a b : Attributes) (name : String) :
    a.differsAt b name = true ↔ (a.get name).Differs (b.get name) := by
  simp [differsAt, Value.Differs]

/-- The values that are taken one after the other begin with the first. -/
theorem exists_destutter_eq_cons (v : Value) (vs : List Value) :
    ∃ rest, (v :: vs).destutter Value.Differs = v :: rest := by
  induction vs with
  | nil => exact ⟨[], rfl⟩
  | cons w vs ih =>
    rw [List.destutter_cons_cons]
    split
    · exact ⟨_, rfl⟩
    · exact ih

variable {kind : Kind} {name : String} {w : Write} {ws : List Write} {e last : Entity}

/-- A write records the previous value of an attribute if and only if it changed it. -/
theorem recorded_cons (hw : w.Valid) (hbefore : w.before = some e)
    (htracked : name ∈ w.entity.kind.tracked) :
    recorded name (w :: ws) =
      if (e.value name).Differs (w.entity.value name) then e.value name :: recorded name ws
      else recorded name ws := by
  obtain ⟨m, hm, -, hdiffs⟩ := hw.exists_modification hbefore
  have hdiffers := Attributes.differsAt_iff e.attributes w.entity.attributes name
  unfold recorded
  rw [List.filterMap_cons_some hm]
  by_cases h : (e.value name).Differs (w.entity.value name)
  · have hget : m.diffs.get? name = some (e.value name) := by
      rw [hdiffs, Attributes.get?_diff, if_pos ⟨htracked, hdiffers.2 h⟩]
      rfl
    rw [if_pos h, List.filterMap_cons, hget]
  · have hget : m.diffs.get? name = none := by
      rw [hdiffs, Attributes.get?_diff, if_neg fun hboth => h (hdiffers.1 hboth.2)]
    rw [if_neg h, List.filterMap_cons, hget]

/-- The values that an attribute took one after the other are those that were recorded, and then the
present one. -/
theorem destutter_values (hfollow : Follow (some e) ws) (hvalid : ∀ w ∈ ws, w.Valid)
    (hkind : ∀ w ∈ ws, w.entity.kind = kind) (htracked : name ∈ kind.tracked)
    (hplain : (e.value name).IsPlain) (hlast : finalOf (some e) ws = some last) :
    (e.value name :: ws.map (·.entity.value name)).destutter Value.Differs =
      recorded name ws ++ [last.value name] := by
  induction ws generalizing e with
  | nil =>
    cases hlast
    rfl
  | cons w rest ih =>
    obtain ⟨hbefore, hrest⟩ := hfollow
    obtain ⟨hw, hvalid⟩ := List.forall_mem_cons.1 hvalid
    obtain ⟨hwkind, hkind⟩ := List.forall_mem_cons.1 hkind
    have hwplain : (w.entity.value name).IsPlain := hw.normal.get_isPlain name
    have hvalues := ih hrest hvalid hkind hwplain hlast
    rw [recorded_cons hw hbefore (hwkind ▸ htracked), List.map_cons, List.destutter_cons_cons]
    split
    · rw [List.cons_append, ← hvalues]
      rfl
    · rename_i hsame
      have heq : e.value name = w.entity.value name :=
        not_not.1 (mt (Value.differs_iff_ne hplain hwplain).2 hsame)
      rw [← hvalues, heq]
      rfl

end Chronicle
