import Chronicle.Proofs.Sorting.Insertion
import Chronicle.Proofs.Sorting.MergeDown
import Chronicle.Proofs.Sorting.Permutation

/-!
# Sorting by runs is stable

Where a comparison does not fail and answers by keys, sorting by runs comes to the same list as
sorting by insertion: the stable arrangement. A strictly falling run has no two elements of one key,
so it may be reversed, and runs that are merged stay in their places.

## Main definitions

* `Stacked` — a stack of sorted runs that has the elements of a list in their places.

## Main statements

* `insertHalving_ok`, `leadingRun_ok`, `fullRun_ok` — what becomes of one run.
* `settle_ok`, `push_ok`, `joinAll_ok` — what becomes of a stack of runs.
* `runSort_arranges` — sorting by runs finds the stable arrangement.
* `insertionSort_eq_runSort` — both sorts come to the same list.
-/

namespace Chronicle.Sorting

variable {α ε : Type} {less : α → α → Except ε Bool} {key : α → Int} {x : α} {xs ys : List α}

/-! ## Insertion by halving -/

theorem insertHalving_ok (hless : Compares less key (x :: xs)) (hxs : Sorted key xs) :
    ∃ zs, insertHalving less x xs = .ok zs ∧ Arranges key (xs ++ [x]) zs := by
  fun_induction insertHalving less x xs with
  | case1 xs hdrop =>
    have hlength := congrArg List.length hdrop
    obtain rfl : xs = [] := by
      rw [List.length_drop] at hlength
      exact List.length_eq_zero_iff.1 (by simp at hlength; omega)
    exact ⟨[x], rfl, List.pairwise_singleton .., .refl _⟩
  | case2 xs y back hdrop ihFront ihBack =>
    have hcut : xs.take (xs.length / 2) ++ y :: back = xs := hdrop ▸ List.take_append_drop ..
    generalize xs.take (xs.length / 2) = front at *
    subst hcut
    clear hdrop
    obtain ⟨hfront, hback, hle⟩ := sorted_append.1 hxs
    obtain ⟨hy, hrest⟩ := List.pairwise_cons.1 hback
    rw [hless x (by simp) y (by simp), ok_bind]
    by_cases hlt : key x < key y
    · obtain ⟨placed, hplaced, harranges⟩ := ihFront (hless.subset (by grind)) hfront
      rw [if_pos (decide_eq_true hlt), hplaced, ok_bind]
      exact ⟨_, rfl, harranges.placeFront hxs (by grind)⟩
    · obtain ⟨placed, hplaced, harranges⟩ := ihBack (hless.subset (by grind)) hrest
      rw [if_neg (by simpa using hlt), hplaced, ok_bind]
      have hsorted : Sorted key ((front ++ [y]) ++ back) := by simpa using hxs
      have hle : ∀ z ∈ front ++ [y], key z ≤ key x := fun z hz =>
        Int.le_trans ((sorted_append.1 hsorted).1.le_getLast (x := y) (by simp) z hz)
          (Int.not_lt.1 hlt)
      exact ⟨_, rfl, by simpa using harranges.placeBack (front ++ [y]) hsorted hle⟩

/-! ## Leading runs -/

theorem rising_ok (last : α) (run : List α) (hless : Compares less key (last :: xs))
    (hrun : Sorted key (last :: run).reverse) :
    ∃ front back, rising less last run xs = .ok (front, back) ∧ Sorted key front := by
  induction xs generalizing last run with
  | nil => exact ⟨_, _, rfl, hrun⟩
  | cons x rest ih =>
    rw [rising, hless x (by simp) last (by simp), ok_bind]
    by_cases hlt : key x < key last
    · rw [if_pos (decide_eq_true hlt)]
      exact ⟨_, _, rfl, hrun⟩
    · rw [if_neg (by simpa using hlt)]
      refine ih x (last :: run) (hless.subset (by grind)) ?_
      rw [List.reverse_cons]
      refine sorted_append.2 ⟨hrun, List.pairwise_singleton .., ?_⟩
      have := hrun.le_getLast (x := last) (by simp)
      grind

theorem falling_ok (last : α) (run : List α) (hless : Compares less key (last :: xs))
    (hrun : (last :: run).Pairwise fun x y => key x < key y) :
    ∃ front back, falling less last run xs = .ok (front, back) ∧
      front.Pairwise fun x y => key x < key y := by
  induction xs generalizing last run with
  | nil => exact ⟨_, _, rfl, hrun⟩
  | cons x rest ih =>
    rw [falling, hless x (by simp) last (by simp), ok_bind]
    by_cases hlt : key x < key last
    · rw [if_pos (decide_eq_true hlt)]
      refine ih x (last :: run) (hless.subset (by grind)) (List.pairwise_cons.2 ⟨?_, hrun⟩)
      have := (List.pairwise_cons.1 hrun).1
      grind
    · rw [if_neg (by simpa using hlt)]
      exact ⟨_, _, rfl, hrun⟩

/-- The leading run of a list is sorted, and in it the elements of each key are in their order. -/
theorem leadingRun_ok (hless : Compares less key xs) :
    ∃ run rest, leadingRun less xs = .ok (run, rest) ∧ Sorted key run ∧
      SameByKey key (run ++ rest) xs := by
  match xs with
  | [] => exact ⟨[], [], rfl, .nil, .refl _⟩
  | [x] => exact ⟨[x], [], rfl, List.pairwise_singleton .., .refl _⟩
  | x :: y :: rest =>
    rw [leadingRun, hless y (by simp) x (by simp), ok_bind]
    by_cases hlt : key y < key x
    · rw [if_pos (decide_eq_true hlt)]
      obtain ⟨run, back, hrun, hpairwise⟩ := falling_ok y [x]
        (hless.subset (List.subset_cons_self x (y :: rest))) (by simpa using hlt)
      have hreverse : SameByKey key run.reverse run := .reverse (hpairwise.imp Int.ne_of_lt)
      refine ⟨run, back, hrun, hpairwise.imp Int.le_of_lt, ?_⟩
      simpa [(append_of_falling hrun).1] using hreverse.symm.append (.refl back)
    · rw [if_neg (by simpa using hlt)]
      obtain ⟨run, back, hrun, hsorted⟩ := rising_ok y [x]
        (hless.subset (List.subset_cons_self x (y :: rest))) (by simpa [Sorted] using hlt)
      refine ⟨run, back, hrun, hsorted, ?_⟩
      simpa [(append_of_rising hrun).1] using SameByKey.refl _

theorem fullRun_ok (length : Nat) (hless : Compares less key xs) :
    ∃ run rest, fullRun less length xs = .ok (run, rest) ∧ Sorted key run ∧
      SameByKey key (run ++ rest) xs := by
  obtain ⟨front, back, hleading, hfront, hsame⟩ := leadingRun_ok hless
  have hmem : ∀ z, z ∈ front ++ back ↔ z ∈ xs := fun z => hsame.mem_iff
  have hcut : back.take (length - front.length) ++ back.drop (length - front.length) = back :=
    List.take_append_drop ..
  obtain ⟨run, hrun, harranges⟩ := insertEach_arranges front (back.take (length - front.length))
    (fun _ _ => insertHalving_ok) (hless.subset (by grind)) hfront
  rw [fullRun, hleading, ok_bind]
  refine ⟨run, back.drop (length - front.length), by simp [hrun], harranges.sorted, ?_⟩
  refine .trans ?_ hsame
  simpa [hcut] using harranges.same.append (.refl (back.drop (length - front.length)))

/-! ## Merging runs -/

/-- Whether a stack of runs has the elements of a list, each run sorted and the elements of each key
in their order. -/
structure Stacked (key : α → Int) (xs : List α) (runs : List (Run α)) : Prop where
  sorted : ∀ run ∈ runs, Sorted key run.items
  same : SameByKey key (unstacked runs) xs

namespace Stacked

variable {runs rest : List (Run α)} {y z : Run α}

theorem withPower (h : Stacked key xs runs) (p : Nat) : Stacked key xs (withPower p runs) where
  sorted := by
    cases runs with
    | nil => exact h.sorted
    | cons run rest =>
      obtain ⟨hrun, hrest⟩ := List.forall_mem_cons.1 h.sorted
      exact List.forall_mem_cons.2 ⟨hrun, hrest⟩
  same := unstacked_withPower p runs ▸ h.same

theorem push (h : Stacked key xs runs) {items : List α} (hitems : Sorted key items)
    (start power : Nat) : Stacked key (xs ++ items) (⟨start, items, power⟩ :: runs) where
  sorted := List.forall_mem_cons.2 ⟨hitems, h.sorted⟩
  same := h.same.append (.refl items)

/-- Merging the last two runs. -/
theorem merge_ok (h : Stacked key xs (z :: y :: rest)) (hless : Compares less key xs)
    (threshold : Nat) :
    ∃ items t, merge less threshold y.items z.items = .ok (items, t) ∧
      Arranges key (y.items ++ z.items) items ∧
      Stacked key xs ({ y with items } :: rest) := by
  obtain ⟨hz, hy, hrest⟩ : Sorted key z.items ∧ Sorted key y.items ∧
      ∀ run ∈ rest, Sorted key run.items := by simpa using h.sorted
  have hmem : ∀ x, x ∈ unstacked (z :: y :: rest) ↔ x ∈ xs := fun x => h.same.mem_iff
  simp only [unstacked] at hmem
  obtain ⟨items, t, hmerge, harranges⟩ := Sorting.merge_ok (hless.subset (by grind)) hy hz threshold
  refine ⟨items, t, hmerge, harranges, List.forall_mem_cons.2 ⟨harranges.sorted, hrest⟩, ?_⟩
  refine .trans ?_ h.same
  simpa [unstacked] using (SameByKey.refl (unstacked rest)).append harranges.same

theorem settle_ok (h : Stacked key xs runs) (hless : Compares less key xs) (p threshold : Nat) :
    ∃ settled t, settle less p threshold runs = .ok (settled, t) ∧ Stacked key xs settled := by
  fun_induction settle less p threshold runs with
  | case1 threshold z y rest hlt ih =>
    obtain ⟨items, t, hmerge, -, hstacked⟩ := h.merge_ok hless threshold
    rw [hmerge, ok_bind]
    exact ih items t hstacked
  | case2 threshold z y rest hlt => exact ⟨_, threshold, rfl, h⟩
  | case3 threshold runs hshort => exact ⟨_, threshold, rfl, h⟩

theorem push_ok (h : Stacked key xs runs) {items : List α} (hless : Compares less key xs)
    (hitems : Sorted key items) (total threshold : Nat) :
    ∃ pushed t, Sorting.push less total threshold runs items = .ok (pushed, t) ∧
      Stacked key (xs ++ items) pushed := by
  cases runs with
  | nil => exact ⟨_, threshold, rfl, h.push hitems 0 0⟩
  | cons last rest =>
    obtain ⟨settled, t, hsettle, hsettled⟩ :=
      h.settle_ok hless (power last items.length total) threshold
    simp only [Sorting.push, hsettle, ok_bind]
    exact ⟨_, t, rfl, (hsettled.withPower _).push hitems _ 0⟩

theorem joinAll_ok (h : Stacked key xs runs) (hless : Compares less key xs) (threshold : Nat) :
    ∃ zs, joinAll less threshold runs = .ok zs ∧ Arranges key xs zs := by
  fun_induction joinAll less threshold runs with
  | case1 threshold z y x rest hlt ih =>
    obtain ⟨hz, hrest⟩ := List.forall_mem_cons.1 h.sorted
    have hmem : ∀ w, w ∈ unstacked (z :: y :: x :: rest) ↔ w ∈ xs := fun w => h.same.mem_iff
    have hbelow : Stacked key (unstacked (y :: x :: rest)) (y :: x :: rest) := ⟨hrest, .refl _⟩
    obtain ⟨items, t, hmerge, -, hstacked⟩ :=
      hbelow.merge_ok (hless.subset (by grind [unstacked])) threshold
    have hall := hstacked.push hz z.start z.power
    rw [hmerge, ok_bind]
    exact ih items t ⟨hall.sorted, hall.same.trans h.same⟩
  | case2 threshold z y x rest hlt ih =>
    obtain ⟨items, t, hmerge, -, hstacked⟩ := h.merge_ok hless threshold
    rw [hmerge, ok_bind]
    exact ih items t hstacked
  | case3 threshold z y =>
    obtain ⟨items, t, hmerge, harranges, -⟩ := h.merge_ok hless threshold
    rw [hmerge]
    exact ⟨items, rfl, harranges.congr (by simpa [unstacked] using h.same)⟩
  | case4 threshold z =>
    exact ⟨_, rfl, h.sorted z List.mem_cons_self, by simpa [unstacked] using h.same⟩
  | case5 threshold => exact ⟨[], rfl, .nil, h.same⟩

end Stacked

/-! ## The sort -/

theorem collect_ok {total count : Nat} (threshold : Nat) {runs : List (Run α)}
    (h : Stacked key xs runs) (hless : Compares less key (xs ++ ys)) (hcount : ys.length ≤ count) :
    ∃ zs, collect less total count threshold runs ys = .ok zs ∧ Arranges key (xs ++ ys) zs := by
  induction count generalizing threshold runs xs ys with
  | zero =>
    obtain rfl : ys = [] := by simpa using hcount
    simpa [collect] using h.joinAll_ok (hless.subset (by simp)) threshold
  | succ count ih =>
    cases ys with
    | nil => simpa [collect] using h.joinAll_ok (hless.subset (by simp)) threshold
    | cons y ys =>
      obtain ⟨run, rest, hrun, hsorted, hsame⟩ :=
        fullRun_ok (leastRun total) (hless.subset (List.subset_append_right xs (y :: ys)))
      obtain ⟨pushed, t, hpush, hpushed⟩ :=
        h.push_ok (hless.subset (by grind)) hsorted total threshold
      have hfewer := (perm_of_fullRun hrun).2 (List.cons_ne_nil y ys)
      have hmem : ∀ z, z ∈ run ++ rest ↔ z ∈ y :: ys := fun z => hsame.mem_iff
      obtain ⟨zs, hzs, harranges⟩ := ih t hpushed (hless.subset (by grind))
        (Nat.le_of_lt_succ (Nat.lt_of_lt_of_le hfewer hcount))
      refine ⟨zs, by simp [collect, hrun, hpush, hzs], harranges.congr ?_⟩
      simpa using (SameByKey.refl xs).append hsame

/-- Sorting by runs finds the stable arrangement. -/
theorem runSort_arranges (hless : Compares less key xs) :
    ∃ zs, runSort less xs = .ok zs ∧ Arranges key xs zs := by
  have hempty : Stacked key ([] : List α) [] := ⟨by simp, .refl []⟩
  exact collect_ok longBlock hempty hless (Nat.le_refl _)

/-- Both sorts come to the same list. -/
theorem insertionSort_eq_runSort (hless : Compares less key xs) :
    insertionSort less xs = runSort less xs := by
  obtain ⟨ys, hys, harranges⟩ := insertionSort_arranges hless
  obtain ⟨zs, hzs, harranges'⟩ := runSort_arranges hless
  rw [hys, hzs, harranges.unique harranges']

end Chronicle.Sorting
