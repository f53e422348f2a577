import Chronicle.Proofs.Sorting.Comparison
import Chronicle.Proofs.Sorting.Stable
import Chronicle.Sorting.Gallop

/-!
# A galloping search finds the boundary

Where the elements in front come before those that are not, the search finds how many are in front,
whatever its hint: the steps away from the hint keep the boundary between the last two places, and
so does every halving of the interval.

## Main definitions

* `Boundary` — the number of elements in front of something.

## Main statements

* `gallop_eq` — the search finds the boundary.
* `gallopLeft_split`, `gallopRight_split` — a sorted list cut at the place of a key.
-/

namespace Chronicle.Sorting

variable {α ε : Type}

/-! ## The boundary -/

section Search

variable {inFront : α → Except ε Bool} {xs : List α} {n low high hint : Nat}

/-- Whether just the first elements of a list are in front. -/
structure Boundary (inFront : α → Except ε Bool) (xs : List α) (n : Nat) : Prop where
  le_length : n ≤ xs.length
  inFront_eq : ∀ i x, xs[i]? = some x → inFront x = .ok (decide (i < n))

theorem Boundary.bisect_eq (h : Boundary inFront xs n) (hlow : low ≤ n) (hhigh : n ≤ high)
    (hlength : high ≤ xs.length) : bisect inFront xs low high = .ok n := by
  fun_induction bisect inFront xs low high with
  | case1 low high hlt hnone =>
    have := List.getElem?_eq_none_iff.1 hnone
    omega
  | case2 low high hlt x hx ihUp ihDown =>
    rw [h.inFront_eq _ x hx, ok_bind]
    by_cases hmiddle : low + (high - low) / 2 < n
    · rw [if_pos (decide_eq_true hmiddle)]
      exact ihUp (by omega) hhigh hlength
    · rw [if_neg (by simpa using hmiddle)]
      exact ihDown hlow (by omega) (by omega)
  | case3 low high hlt =>
    obtain rfl : low = n := by omega
    rfl

/-- Where no question has an answer, halving an interval fails at the first. -/
theorem bisect_eq_error {e : ε} (h : ∀ x ∈ xs, inFront x = .error e) (hlt : low < high)
    (hlength : high ≤ xs.length) : bisect inFront xs low high = .error e := by
  have hmiddle : low + (high - low) / 2 < xs.length := by omega
  rw [bisect, dif_pos hlt, List.getElem?_eq_getElem hmiddle]
  simp only [h _ (List.getElem_mem hmiddle), error_bind]

/-- Steps up from a place in front end with the boundary between the last two places. -/
theorem Boundary.stride_ok (h : Boundary inFront xs n) (limit last step : Nat)
    (hlimit : hint + limit = xs.length) (hlast : hint + last < n) (hstep : last < step) :
    ∃ low high, stride inFront xs hint limit last step = .ok (low, high) ∧
      hint + low < n ∧ n ≤ hint + high ∧ high ≤ limit := by
  have hlength := h.le_length
  fun_induction stride inFront xs hint limit last step with
  | case1 last step hlt hnone =>
    have := List.getElem?_eq_none_iff.1 hnone
    omega
  | case2 last step hlt x hx ih =>
    rw [h.inFront_eq _ x hx, ok_bind]
    by_cases hfront : hint + step < n
    · rw [if_pos (decide_eq_true hfront)]
      exact ih hfront (by omega)
    · rw [if_neg (by simpa using hfront)]
      exact ⟨last, step, rfl, hlast, by omega, by omega⟩
  | case3 last step hlt => exact ⟨last, limit, rfl, hlast, by omega, Nat.le_refl _⟩

/-- Steps down from a place that is not in front end with the boundary between the last two
places. -/
theorem Boundary.strideBack_ok (h : Boundary inFront xs n) (limit last step : Nat)
    (hhint : hint < xs.length) (hlimit : limit = hint + 1) (hlast : n + last ≤ hint)
    (hstep : last < step) :
    ∃ low high, strideBack inFront xs hint limit last step = .ok (low, high) ∧
      n + low ≤ hint ∧ hint + 1 ≤ n + high ∧ high ≤ limit := by
  fun_induction strideBack inFront xs hint limit last step with
  | case1 last step hlt hnone =>
    have := List.getElem?_eq_none_iff.1 hnone
    omega
  | case2 last step hlt x hx ih =>
    rw [h.inFront_eq _ x hx, ok_bind]
    by_cases hfront : hint - step < n
    · rw [if_pos (decide_eq_true hfront)]
      exact ⟨last, step, rfl, hlast, by omega, by omega⟩
    · rw [if_neg (by simpa using hfront)]
      exact ih (by omega) (by omega)
  | case3 last step hlt => exact ⟨last, limit, rfl, hlast, by omega, Nat.le_refl _⟩

/-- A search finds the boundary from every hint inside the list. -/
theorem gallop_eq (h : Boundary inFront xs n) (hhint : hint ≤ xs.length - 1) :
    gallop inFront xs hint = .ok n := by
  have hlength := h.le_length
  unfold gallop
  cases hx : xs[hint]? with
  | none =>
    have := List.getElem?_eq_none_iff.1 hx
    obtain rfl : n = 0 := by omega
    rfl
  | some x =>
    obtain ⟨hlt, -⟩ := List.getElem?_eq_some_iff.1 hx
    simp only [h.inFront_eq _ x hx, ok_bind]
    by_cases hfront : hint < n
    · obtain ⟨low, high, hstride, hlow, hhigh, hle⟩ :=
        h.stride_ok (xs.length - hint) 0 1 (by omega) hfront (by omega)
      rw [if_pos (decide_eq_true hfront), hstride, ok_bind]
      exact h.bisect_eq (by omega) hhigh (by omega)
    · obtain ⟨low, high, hstride, hlow, hhigh, hle⟩ :=
        h.strideBack_ok (hint + 1) 0 1 hlt rfl (by omega) (by omega)
      rw [if_neg (by simpa using hfront), hstride, ok_bind]
      exact h.bisect_eq (by omega) (by omega) (by omega)

end Search

/-! ## The place of a key -/

section Keys

variable {less : α → α → Except ε Bool} {key : α → Int} {x y : α} {xs ys : List α}

/-- A sorted list falls into the elements whose key is below a bound and those whose key is not;
what is in front is below the bound. -/
theorem boundary_of_sorted {inFront : α → Except ε Bool} (bound : Int) (hxs : Sorted key xs)
    (h : ∀ x ∈ xs, inFront x = .ok (decide (key x < bound))) :
    ∃ n, Boundary inFront xs n ∧ (∀ x ∈ xs.take n, key x < bound) ∧
      ∀ x ∈ xs.drop n, bound ≤ key x := by
  induction xs with
  | nil => exact ⟨0, ⟨Nat.le_refl _, by simp⟩, by simp⟩
  | cons x xs ih =>
    obtain ⟨hle, hrest⟩ := List.pairwise_cons.1 hxs
    by_cases hx : key x < bound
    · obtain ⟨n, hn, hfront, hback⟩ := ih hrest fun y hy => h y (List.mem_cons_of_mem x hy)
      refine ⟨n + 1, ⟨Nat.succ_le_succ hn.le_length, fun i y hy => ?_⟩, by grind, by grind⟩
      cases i with
      | zero =>
        obtain rfl : x = y := by simpa using hy
        simp [h x List.mem_cons_self, hx]
      | succ i => simpa using hn.inFront_eq i y (by simpa using hy)
    · have hnot : ∀ y ∈ x :: xs, bound ≤ key y := by grind
      refine ⟨0, ⟨Nat.zero_le _, fun i y hy => ?_⟩, by simp, hnot⟩
      have hmem := List.mem_of_getElem? hy
      have := hnot y hmem
      simp [h y hmem, this]

/-- A sorted list cut in front of the first element that does not precede a key. -/
theorem gallopLeft_split (x : α) (hint : Nat) (hless : Compares less key (x :: ys))
    (hys : Sorted key ys) (hhint : hint ≤ ys.length - 1) :
    ∃ n, gallopLeft less x ys hint = .ok n ∧ n ≤ ys.length ∧
      (∀ y ∈ ys.take n, key y < key x) ∧ ∀ y ∈ ys.drop n, key x ≤ key y := by
  obtain ⟨n, hn, hfront, hback⟩ := boundary_of_sorted (key x) hys fun y hy =>
    hless y (List.mem_cons_of_mem x hy) x List.mem_cons_self
  exact ⟨n, gallop_eq hn hhint, hn.le_length, hfront, hback⟩

/-- A sorted list cut in front of the first element that a key precedes. -/
theorem gallopRight_split (y : α) (hint : Nat) (hless : Compares less key (y :: xs))
    (hxs : Sorted key xs) (hhint : hint ≤ xs.length - 1) :
    ∃ m, gallopRight less y xs hint = .ok m ∧ m ≤ xs.length ∧
      (∀ x ∈ xs.take m, key x ≤ key y) ∧ ∀ x ∈ xs.drop m, key y < key x := by
  have hfront : ∀ x ∈ xs, (do return !(← less y x) : Except ε Bool) =
      .ok (decide (key x < key y + 1)) := by
    intro x hx
    rw [hless y List.mem_cons_self x (List.mem_cons_of_mem y hx), ok_bind, pure_eq_ok, ← decide_not]
    exact congrArg Except.ok (decide_eq_decide.2 (by omega))
  obtain ⟨m, hm, hfront, hback⟩ := boundary_of_sorted (key y + 1) hxs hfront
  exact ⟨m, gallop_eq hm hhint, hm.le_length, fun x hx => Int.lt_add_one_iff.1 (hfront x hx),
    fun x hx => Int.lt_of_add_one_le (hback x hx)⟩

end Keys

end Chronicle.Sorting
