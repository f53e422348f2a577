import Chronicle.Proofs.Sorting.Comparison
import Chronicle.Proofs.Sorting.Stable
import Chronicle.Sorting.Insertion

/-!
# Sorting by insertion is stable

An element that is placed passes only greater ones, so a list with a placed element is the stable
arrangement of the list with that element at its end. This holds of every way of placing an element,
and placing one after the other keeps it.

## Main statements

* `Arranges.placeFront`, `Arranges.placeBack` — where an element is placed.
* `insertEach_arranges` — elements that are placed one after the other.
* `insertionSort_arranges` — sorting by insertion finds the stable arrangement.
-/

namespace Chronicle.Sorting

variable {α ε : Type} {less : α → α → Except ε Bool} {key : α → Int} {x : α} {xs : List α}

/-- An element placed in front of greater elements. -/
theorem Arranges.placeFront {front back placed : List α} (h : Arranges key (front ++ [x]) placed)
    (hsorted : Sorted key (front ++ back)) (hx : ∀ y ∈ back, key x < key y) :
    Arranges key (front ++ back ++ [x]) (placed ++ back) := by
  obtain ⟨-, hback, hle⟩ := sorted_append.1 hsorted
  have hbetween : ∀ z ∈ front ++ [x], Sorted key ([] ++ z :: back) := fun z hz =>
    List.pairwise_cons.2 ⟨by grind, hback⟩
  have hplaced := h.between [] back hback hbetween
  have hswap : SameByKey key ([x] ++ back) (back ++ [x]) := .swap (by grind)
  refine hplaced.congr ?_
  simpa using (SameByKey.refl front).append hswap

/-- An element placed behind elements that are not greater. -/
theorem Arranges.placeBack (front : List α) {back placed : List α}
    (h : Arranges key (back ++ [x]) placed) (hsorted : Sorted key (front ++ back))
    (hx : ∀ y ∈ front, key y ≤ key x) :
    Arranges key (front ++ back ++ [x]) (front ++ placed) := by
  obtain ⟨hfront, -, hle⟩ := sorted_append.1 hsorted
  have hbetween : ∀ z ∈ back ++ [x], Sorted key (front ++ z :: []) := fun z hz =>
    sorted_append.2 ⟨hfront, List.pairwise_singleton .., by grind⟩
  simpa using h.between front [] (by simpa using hfront) hbetween

theorem insert_arranges (hless : Compares less key (x :: xs)) (hxs : Sorted key xs) :
    ∃ zs, insert less x xs = .ok zs ∧ Arranges key (xs ++ [x]) zs := by
  induction xs with
  | nil => exact ⟨[x], rfl, List.pairwise_singleton .., .refl _⟩
  | cons y rest ih =>
    obtain ⟨hy, hrest⟩ := List.pairwise_cons.1 hxs
    rw [insert, hless x (by simp) y (by simp), ok_bind]
    by_cases hlt : key x < key y
    · have hfirst : Arranges key ([] ++ [x]) [x] := ⟨List.pairwise_singleton .., .refl _⟩
      rw [if_pos (decide_eq_true hlt)]
      exact ⟨_, rfl, hfirst.placeFront hxs (by grind)⟩
    · obtain ⟨placed, hplaced, harranges⟩ := ih (hless.subset (by grind)) hrest
      rw [if_neg (by simpa using hlt), hplaced, ok_bind]
      exact ⟨_, rfl, harranges.placeBack [y] hxs (by grind)⟩

/-- Elements placed one after the other, each behind all that it does not precede. -/
theorem insertEach_arranges (xs ys : List α) {place : α → List α → Except ε (List α)}
    (hplace : ∀ x xs, Compares less key (x :: xs) → Sorted key xs →
      ∃ zs, place x xs = .ok zs ∧ Arranges key (xs ++ [x]) zs)
    (hless : Compares less key (xs ++ ys)) (hxs : Sorted key xs) :
    ∃ zs, insertEach place xs ys = .ok zs ∧ Arranges key (xs ++ ys) zs := by
  induction ys generalizing xs with
  | nil => exact ⟨xs, rfl, hxs, by simpa using .refl _⟩
  | cons y ys ih =>
    obtain ⟨placed, hplaced, harranges⟩ := hplace y xs (hless.subset (by grind)) hxs
    have hmem : ∀ z, z ∈ placed ↔ z ∈ xs ++ [y] := fun z => harranges.perm.mem_iff
    obtain ⟨zs, hzs, hall⟩ := ih placed (hless.subset (by grind)) harranges.sorted
    rw [insertEach, hplaced, ok_bind]
    refine ⟨zs, hzs, hall.congr ?_⟩
    simpa using harranges.same.append (.refl ys)

/-- Sorting by insertion finds the stable arrangement. -/
theorem insertionSort_arranges (hless : Compares less key xs) :
    ∃ zs, insertionSort less xs = .ok zs ∧ Arranges key xs zs :=
  insertEach_arranges [] xs (fun _ _ => insert_arranges) hless .nil

end Chronicle.Sorting
