import Chronicle.Proofs.Attributes
import Chronicle.Proofs.Value.Order

/-!
# Rewinding a chain of states

Each state of a chain differs from the next by what the difference of the two holds. Overwriting the
last state with the differences, from the last back to some place, gives the tracked attributes of
the state at that place, whatever their values are. A value that did not change between two states
is not recorded, but it may have been written differently, such as 1 and 1.0. So a rewound value is
the value of the earlier state itself or one that is the same.

## Main definitions

* `Attributes.diffsAlong` — the differences along a chain.
* `Attributes.rewind` — a state overwritten with differences, the last first.

## Main statements

* `Attributes.rewind_agrees` — rewinding all differences gives back the first state.
* `rewind_chain` — rewinding to any state of a chain.
-/

namespace Chronicle

/-- Values agree if they are one value or the same. -/
theorem Value.agrees_iff_eq_or_same {v w : Value} :
    v.agrees w = true ↔ v = w ∨ v.same w = true := by
  constructor
  · intro h
    rcases Bool.or_eq_true_iff.1 h with hmark | hsame
    · exact .inl (eq_of_sameMark hmark)
    · exact .inr hsame
  · rintro (rfl | hsame)
    · exact agrees_refl v
    · exact Bool.or_eq_true_iff.2 (.inr hsame)

namespace Attributes

variable {tracked : List String} {first last : Attributes} {rest states : List Attributes}
  {name : String}

/-- The difference of each state of a chain from the next. -/
def diffsAlong (tracked : List String) (states : List Attributes) : List Attributes :=
  List.zipWith (fun before after => before.diff after tracked) states states.tail

/-- Overwrites a set with differences, the last difference first. -/
def rewind (a : Attributes) (diffs : List Attributes) : Attributes :=
  diffs.foldr (fun d b => b.merge d) a

theorem diffsAlong_drop (tracked : List String) (states : List Attributes) (k : Nat) :
    (diffsAlong tracked states).drop k = diffsAlong tracked (states.drop k) := by
  rw [diffsAlong, diffsAlong, List.drop_zipWith, List.drop_tail, List.tail_drop]

theorem rewind_diffsAlong_cons (a first second : Attributes) (rest : List Attributes) :
    a.rewind (diffsAlong tracked (first :: second :: rest)) =
      (a.rewind (diffsAlong tracked (second :: rest))).merge (first.diff second tracked) := rfl

/-- Rewinding never changes what is not tracked. -/
theorem get?_rewind_of_untracked (hname : name ∉ tracked) (a : Attributes)
    (states : List Attributes) :
    (a.rewind (diffsAlong tracked states)).get? name = a.get? name := by
  induction states with
  | nil => rfl
  | cons first rest ih =>
    cases rest with
    | nil => rfl
    | cons second rest =>
      rw [rewind_diffsAlong_cons, get?_merge_diff, if_neg fun h => hname h.1]
      exact ih

/-- Overwriting with the difference from the next state takes back the step from a state, for values
that agree with those of the next state. -/
theorem merge_diff_agrees {a before after : Attributes} (hname : name ∈ tracked)
    (h : (a.get name).agrees (after.get name) = true) :
    ((a.merge (before.diff after tracked)).get name).agrees (before.get name) = true := by
  by_cases hdiffers : differsAt before after name = true
  · rw [get, get?_merge_diff, if_pos ⟨hname, hdiffers⟩]
    exact Value.agrees_refl _
  · have hsame : (before.get name).same (after.get name) = true := by
      simpa [differsAt] using hdiffers
    rw [get, get?_merge_diff, if_neg fun hboth => hdiffers hboth.2]
    have hunchanged := Value.agrees_iff_eq_or_same.2 (.inr hsame)
    exact Value.agrees_trans h (Value.agrees_symm hunchanged)

/-- Rewinding all differences of a chain gives the tracked attributes of the first state. -/
theorem rewind_agrees (hname : name ∈ tracked)
    (hlast : (first :: rest).getLast (List.cons_ne_nil first rest) = last) :
    ((last.rewind (diffsAlong tracked (first :: rest))).get name).agrees (first.get name) =
      true := by
  induction rest generalizing first with
  | nil =>
    obtain rfl : first = last := hlast
    exact Value.agrees_refl _
  | cons second rest ih =>
    rw [rewind_diffsAlong_cons]
    exact merge_diff_agrees hname (ih hlast)

end Attributes

open Attributes in
/-- Differences take back a chain of states, whatever its values are. Overwrite the last state with
the differences from the last back to the one after some state: every tracked attribute then has the
value that it has in that state, or one that is the same, where an absent value counts as null; and
no other attribute is altered. The names of each difference are exactly the tracked ones whose
values in the two states are not the same. -/
theorem rewind_chain (tracked : List String) (first : Attributes) (rest : List Attributes) :
    let states := first :: rest
    let diffs := diffsAlong tracked states
    let last := states.getLast (List.cons_ne_nil first rest)
    (∀ k (hk : k < states.length),
      let rewound := last.rewind (diffs.drop k)
      (∀ name ∈ tracked, rewound.get name = states[k].get name ∨
        (rewound.get name).same (states[k].get name) = true) ∧
      ∀ name ∉ tracked, rewound.get? name = last.get? name) ∧
    diffs.length = rest.length ∧
    ∀ i (hi : i + 1 < states.length), ∃ d, diffs[i]? = some d ∧ d.Distinct ∧ ∀ name,
      name ∈ d.names ↔
        name ∈ tracked ∧ (states[i].get name).same (states[i + 1].get name) = false := by
  intro states diffs last
  refine ⟨fun k hk => ?_, ?_, fun i hi => ?_⟩
  · have hstates : states[k] :: states.drop (k + 1) = states.drop k :=
      List.getElem_cons_drop hk
    have hdrop : diffs.drop k = diffsAlong tracked (states[k] :: states.drop (k + 1)) := by
      rw [hstates]
      exact diffsAlong_drop tracked states k
    have hlast : (states[k] :: states.drop (k + 1)).getLast (List.cons_ne_nil _ _) = last := by
      simp only [hstates]
      exact List.getLast_drop _
    rw [hdrop]
    refine ⟨fun name hname => ?_, fun name hname => get?_rewind_of_untracked hname last _⟩
    exact Value.agrees_iff_eq_or_same.1 (rewind_agrees hname hlast)
  · simp [diffs, states, diffsAlong]
  · have hi' : i < rest.length := Nat.lt_of_succ_lt_succ hi
    refine ⟨states[i].diff states[i + 1] tracked, ?_, distinct_diff .., fun name => ?_⟩
    · simp [diffs, states, diffsAlong, hi']
    · rw [mem_names_diff, differsAt, Bool.not_eq_true']

/-- The first of two values that are the same comes back as the second. -/
example :
    let states : List Attributes := [⟨[("n", .int 1)]⟩, ⟨[("n", .bool true)]⟩, ⟨[("n", .int 2)]⟩]
    let last : Attributes := ⟨[("n", .int 2)]⟩
    (last.rewind (Attributes.diffsAlong ["n"] states)).get "n" = .bool true := by
  rfl

end Chronicle
