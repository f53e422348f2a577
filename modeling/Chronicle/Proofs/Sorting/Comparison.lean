import Chronicle.Proofs.Except
import Mathlib.Data.List.Basic
import Mathlib.Data.List.Count

/-!
# Comparisons that answer by keys

A comparison that does not fail on a list and answers by a weak order answers by keys: the key of an
element is how many elements of the list precede it. So what holds of sorts by keys holds of sorts
by all such comparisons.

## Main definitions

* `Compares` — a comparison that does not fail and answers by keys.
* `height` — how many elements of a list precede an element.

## Main statements

* `height_lt_iff` — heights are in the order of the elements.
-/

namespace Chronicle.Sorting

variable {α ε : Type} {less : α → α → Except ε Bool} {key : α → Int} {x : α} {xs ys : List α}

/-- Whether a comparison of elements of a list does not fail and answers by their keys. -/
def Compares (less : α → α → Except ε Bool) (key : α → Int) (xs : List α) : Prop :=
  ∀ x ∈ xs, ∀ y ∈ xs, less x y = .ok (decide (key x < key y))

theorem Compares.subset (h : Compares less key ys) (hsubset : xs ⊆ ys) : Compares less key xs :=
  fun x hx y hy => h x (hsubset hx) y (hsubset hy)

/-! ## Weak orders -/

open Classical in
/-- How many elements of a list precede an element. -/
noncomputable def height (lt : α → α → Prop) (xs : List α) (x : α) : Nat := xs.countP (lt · x)

theorem height_lt_iff {lt : α → α → Prop} {y : α} (hasymm : ∀ x ∈ xs, ∀ y ∈ xs, lt x y → ¬ lt y x)
    (hweak : ∀ x ∈ xs, ∀ y ∈ xs, ∀ z ∈ xs, lt x y → lt x z ∨ lt z y) (hx : x ∈ xs) (hy : y ∈ xs) :
    height lt xs x < height lt xs y ↔ lt x y := by
  classical
  unfold height
  constructor
  · intro hlt
    by_contra hnot
    refine Nat.not_le_of_lt hlt (List.countP_mono_left fun z hz hzy => ?_)
    simpa [hnot] using hweak z hz y hy x hx (by simpa using hzy)
  · intro hxy
    -- All that precedes the lesser element precedes the greater one, and so does that element.
    have hmono : ∀ z ∈ xs, lt z x → lt z y := fun z hz hzx =>
      (hweak z hz x hx y hy hzx).resolve_right (hasymm x hx y hy hxy)
    have hself : ¬ lt x x := fun h => hasymm x hx x hx h h
    obtain ⟨front, back, hsplit⟩ := List.append_of_mem hx
    have hle : ∀ zs ⊆ xs, zs.countP (lt · x) ≤ zs.countP (lt · y) := fun zs hzs =>
      List.countP_mono_left fun z hz hzx => by simpa using hmono z (hzs hz) (by simpa using hzx)
    have hfront := hle front (by simp [hsplit])
    have hback := hle back (by simp [hsplit])
    simp only [hsplit, List.countP_append, List.countP_cons, hself, hxy]
    simp
    omega

end Chronicle.Sorting
