import Chronicle.Proofs.Except
import Chronicle.Sorting.Runs
import Mathlib.Data.List.Perm.Basic

/-!
# Sorts lose nothing

Whatever a comparison answers, and whether its answers fit together or not: a sort that comes to an
end has the elements of its list.

## Main definitions

* `Progress.elements` — the elements of a merge.
* `unstacked` — the elements of a stack of runs, in their places.

## Main statements

* `perm_of_merge` — a merge has the elements of both runs.
* `perm_of_insertionSort`, `perm_of_runSort` — a sorted list has the elements of the list.
-/

namespace Chronicle.Sorting

open scoped List

variable {α ε : Type} {less : α → α → Except ε Bool} {x : α} {merged xs ys zs : List α}

/-! ## Merges -/

/-- The elements of a merge: what is merged and what is not. -/
def Progress.elements : Progress α → List α
  | finished zs => zs
  | going _ merged xs ys => merged ++ (xs ++ ys)

/-- A merge that has each element as often as it was given has the elements that it was given. -/
theorem perm_of_count {p : Progress α}
    (h : ∀ [DecidableEq α] (a : α),
      p.elements.count a = merged.count a + xs.count a + ys.count a) :
    p.elements.Perm (merged ++ (xs ++ ys)) := by
  classical
  refine List.perm_iff_count.2 fun a => ?_
  simpa [Nat.add_assoc] using h a

section Rounds

variable [DecidableEq α] {threshold m n : Nat} {p : Progress α}

theorem count_take_add_drop (a : α) (n : Nat) (xs : List α) :
    (xs.take n).count a + (xs.drop n).count a = xs.count a := by
  rw [← List.count_append, List.take_append_drop]

theorem count_countUp (h : countUp less threshold m n merged xs ys = .ok p) (a : α) :
    p.elements.count a = merged.count a + xs.count a + ys.count a := by
  unfold countUp at h
  split at h
  · rw [bind_eq_ok_iff] at h
    obtain ⟨b, -, h⟩ := h
    split at h <;> split at h <;> cases h <;> grind [Progress.elements]
  · cases h
    grind [Progress.elements]

theorem count_gallopUp (h : gallopUp less merged xs ys = .ok p) (a : α) :
    p.elements.count a = merged.count a + xs.count a + ys.count a := by
  cases ys with
  | nil =>
    cases h
    grind [Progress.elements]
  | cons y ys =>
    simp only [gallopUp, bind_eq_ok_iff] at h
    obtain ⟨m, -, h⟩ := h
    have hxs := count_take_add_drop a m xs
    split at h
    · cases h
      grind [Progress.elements]
    · cases h
      grind [Progress.elements]
    split at h
    · cases h
      grind [Progress.elements]
    rw [bind_eq_ok_iff] at h
    obtain ⟨n, -, h⟩ := h
    have hys := count_take_add_drop a n ys
    split at h
    · cases h
      grind [Progress.elements]
    split at h <;> cases h <;> grind [Progress.elements]

theorem count_countDown (h : countDown less threshold m n merged xs ys = .ok p) (a : α) :
    p.elements.count a = merged.count a + xs.count a + ys.count a := by
  unfold countDown at h
  split at h
  · rw [bind_eq_ok_iff] at h
    obtain ⟨b, -, h⟩ := h
    split at h <;> split at h <;> cases h <;> grind [Progress.elements]
  · cases h
    grind [Progress.elements]

theorem count_gallopDown (h : gallopDown less merged xs ys = .ok p) (a : α) :
    p.elements.count a = merged.count a + xs.count a + ys.count a := by
  cases ys with
  | nil =>
    cases h
    grind [Progress.elements]
  | cons y ys =>
    simp only [gallopDown, bind_eq_ok_iff] at h
    obtain ⟨r, -, h⟩ := h
    have hxs := count_take_add_drop a (xs.length - r) xs
    split at h
    · cases h
      grind [Progress.elements]
    split at h
    · cases h
      grind [Progress.elements]
    rw [bind_eq_ok_iff] at h
    obtain ⟨l, -, h⟩ := h
    have hys := count_take_add_drop a (ys.length - l) ys
    split at h
    · cases h
      grind [Progress.elements]
    split at h <;> cases h <;> grind [Progress.elements]

end Rounds

theorem perm_of_roundUp {threshold t : Nat} {pace : Pace} {p : Progress α}
    (h : roundUp less threshold pace merged xs ys = .ok (t, p)) :
    p.elements.Perm (merged ++ (xs ++ ys)) := by
  unfold roundUp at h
  split at h
  · obtain ⟨q, hq, h⟩ := bind_eq_ok_iff.1 h
    cases h
    exact perm_of_count fun a => count_countUp hq a
  · obtain ⟨q, hq, h⟩ := bind_eq_ok_iff.1 h
    cases h
    exact perm_of_count fun a => count_gallopUp hq a

theorem perm_of_roundDown {threshold t : Nat} {pace : Pace} {p : Progress α}
    (h : roundDown less threshold pace merged xs ys = .ok (t, p)) :
    p.elements.Perm (merged ++ (xs ++ ys)) := by
  unfold roundDown at h
  split at h
  · obtain ⟨q, hq, h⟩ := bind_eq_ok_iff.1 h
    cases h
    exact perm_of_count fun a => count_countDown hq a
  · obtain ⟨q, hq, h⟩ := bind_eq_ok_iff.1 h
    cases h
    exact perm_of_count fun a => count_gallopDown hq a

/-- Rounds that lose nothing lose nothing together. -/
theorem perm_of_goOn
    {round : Nat → Pace → List α → List α → List α → Except ε (Nat × Progress α)}
    {close : List α → List α → List α → List α}
    (hround : ∀ threshold pace merged xs ys t p,
      round threshold pace merged xs ys = .ok (t, p) → p.elements.Perm (merged ++ (xs ++ ys)))
    (hclose : ∀ merged xs ys, (close merged xs ys).Perm (merged ++ (xs ++ ys)))
    {rounds threshold t : Nat} {pace : Pace}
    (h : goOn round close rounds threshold pace merged xs ys = .ok (zs, t)) :
    zs.Perm (merged ++ (xs ++ ys)) := by
  induction rounds generalizing threshold pace merged xs ys with
  | zero =>
    cases h
    exact hclose merged xs ys
  | succ rounds ih =>
    rw [goOn, bind_eq_ok_iff] at h
    obtain ⟨⟨t', p⟩, hp, h⟩ := h
    have hperm := hround threshold pace merged xs ys t' p hp
    cases p with
    | finished _ =>
      cases h
      exact hperm
    | going next merged' xs' ys' => exact (ih h).trans hperm

theorem perm_closeUp : (closeUp merged xs ys).Perm (merged ++ (xs ++ ys)) := by
  simpa [closeUp] using (List.reverse_perm merged).append_right (xs ++ ys)

theorem perm_closeDown : (closeDown merged xs ys).Perm (merged ++ (xs ++ ys)) :=
  ((xs.reverse_perm.append ys.reverse_perm).append_right merged).trans List.perm_append_comm

theorem perm_of_mergeUp {threshold t : Nat} (h : mergeUp less threshold xs ys = .ok (zs, t)) :
    zs.Perm (xs ++ ys) := by
  cases ys with
  | nil =>
    cases h
    simp
  | cons y ys =>
    simp only [mergeUp] at h
    split at h
    · rename_i hempty
      cases h
      rw [List.isEmpty_iff.1 hempty]
      exact (List.perm_append_singleton y xs).symm
    split at h
    · cases h
      exact List.perm_append_comm
    · have hperm := perm_of_goOn (fun _ _ _ _ _ _ _ h => perm_of_roundUp h)
        (fun _ _ _ => perm_closeUp) h
      calc zs
        _ ~ y :: (xs ++ ys) := hperm
        _ ~ xs ++ y :: ys := List.perm_middle.symm

theorem perm_of_mergeDown {threshold t : Nat} (h : mergeDown less threshold xs ys = .ok (zs, t)) :
    zs.Perm (xs ++ ys) := by
  unfold mergeDown at h
  split at h
  · rename_i hreverse
    cases h
    simp [List.reverse_eq_nil_iff.1 hreverse]
  rename_i x rest hreverse
  have hxs : xs.Perm (x :: rest) := hreverse ▸ xs.reverse_perm.symm
  split at h
  · rename_i hempty
    cases h
    rw [List.isEmpty_iff.1 hempty] at hxs
    exact List.perm_append_comm.trans (hxs.symm.append_right ys)
  split at h
  · cases h
    exact List.perm_append_comm
  · have hperm := perm_of_goOn (fun _ _ _ _ _ _ _ h => perm_of_roundDown h)
      (fun _ _ _ => perm_closeDown) h
    exact hperm.trans ((hxs.append ys.reverse_perm.symm).symm)

/-- A merge has the elements of both runs. -/
theorem perm_of_merge {threshold t : Nat} (h : merge less threshold xs ys = .ok (zs, t)) :
    zs.Perm (xs ++ ys) := by
  cases ys with
  | nil =>
    cases h
    simp
  | cons y ys =>
    rw [merge, bind_eq_ok_iff] at h
    obtain ⟨m, -, h⟩ := h
    split at h
    · cases h
      rfl
    rw [bind_eq_ok_iff] at h
    obtain ⟨n, -, h⟩ := h
    split at h
    · cases h
      rfl
    rw [bind_eq_ok_iff] at h
    obtain ⟨⟨middle, t'⟩, hmiddle, h⟩ := h
    cases h
    have hperm : middle.Perm (xs.drop m ++ (y :: ys).take n) := by
      unfold mergeShorter at hmiddle
      split at hmiddle
      · exact perm_of_mergeUp hmiddle
      · exact perm_of_mergeDown hmiddle
    calc xs.take m ++ middle ++ (y :: ys).drop n
      _ ~ xs.take m ++ (xs.drop m ++ (y :: ys).take n) ++ (y :: ys).drop n :=
        (hperm.append_left _).append_right _
      _ = (xs.take m ++ xs.drop m) ++ ((y :: ys).take n ++ (y :: ys).drop n) := by
        simp only [List.append_assoc]
      _ = xs ++ y :: ys := by rw [List.take_append_drop, List.take_append_drop]

/-! ## Insertion -/

theorem perm_of_insertHalving (h : insertHalving less x xs = .ok zs) : zs.Perm (x :: xs) := by
  fun_induction insertHalving less x xs generalizing zs with
  | case1 xs hdrop =>
    cases h
    have hlength := congrArg List.length hdrop
    obtain rfl : xs = [] := by
      rw [List.length_drop] at hlength
      exact List.length_eq_zero_iff.1 (by simp at hlength; omega)
    rfl
  | case2 xs y back hdrop ihFront ihBack =>
    obtain ⟨b, -, h⟩ := bind_eq_ok_iff.1 h
    have hxs : xs.take (xs.length / 2) ++ y :: back = xs := hdrop ▸ List.take_append_drop ..
    generalize xs.take (xs.length / 2) = front at *
    subst hxs
    split at h
    · obtain ⟨placed, hplaced, h⟩ := bind_eq_ok_iff.1 h
      cases h
      exact (ihFront hplaced).append_right (y :: back)
    · obtain ⟨placed, hplaced, h⟩ := bind_eq_ok_iff.1 h
      cases h
      calc front ++ y :: placed
        _ ~ front ++ y :: x :: back := ((ihBack hplaced).cons y).append_left front
        _ ~ front ++ x :: y :: back := (List.Perm.swap x y back).append_left front
        _ ~ x :: (front ++ y :: back) := List.perm_middle

theorem perm_of_insert (h : insert less x xs = .ok zs) : zs.Perm (x :: xs) := by
  induction xs generalizing zs with
  | nil =>
    cases h
    rfl
  | cons y rest ih =>
    obtain ⟨b, -, h⟩ := bind_eq_ok_iff.1 h
    split at h
    · cases h
      rfl
    · obtain ⟨placed, hplaced, h⟩ := bind_eq_ok_iff.1 h
      cases h
      exact ((ih hplaced).cons y).trans (.swap x y rest)

theorem perm_of_insertEach {place : α → List α → Except ε (List α)}
    (hplace : ∀ x xs zs, place x xs = .ok zs → zs.Perm (x :: xs))
    (h : insertEach place xs ys = .ok zs) : zs.Perm (xs ++ ys) := by
  induction ys generalizing xs with
  | nil =>
    cases h
    simp
  | cons y ys ih =>
    obtain ⟨placed, hplaced, h⟩ := bind_eq_ok_iff.1 h
    exact (ih h).trans (((hplace y xs placed hplaced).append_right ys).trans
      List.perm_middle.symm)

/-- A list sorted by insertion has the elements of the list. -/
theorem perm_of_insertionSort (h : insertionSort less xs = .ok zs) : zs.Perm xs :=
  perm_of_insertEach (fun _ _ _ => perm_of_insert) h

/-! ## Runs -/

theorem append_of_rising {last : α} {run front back : List α}
    (h : rising less last run xs = .ok (front, back)) :
    front ++ back = (last :: run).reverse ++ xs ∧ front ≠ [] := by
  induction xs generalizing last run with
  | nil =>
    cases h
    simp
  | cons x rest ih =>
    obtain ⟨b, -, h⟩ := bind_eq_ok_iff.1 h
    split at h
    · cases h
      simp
    · simpa using ih h

theorem append_of_falling {last : α} {run front back : List α}
    (h : falling less last run xs = .ok (front, back)) :
    front.reverse ++ back = (last :: run).reverse ++ xs ∧ front ≠ [] := by
  induction xs generalizing last run with
  | nil =>
    cases h
    simp
  | cons x rest ih =>
    obtain ⟨b, -, h⟩ := bind_eq_ok_iff.1 h
    split at h
    · simpa using ih h
    · cases h
      simp

theorem perm_of_leadingRun {run rest : List α} (h : leadingRun less xs = .ok (run, rest)) :
    (run ++ rest).Perm xs ∧ (xs ≠ [] → run ≠ []) := by
  unfold leadingRun at h
  split at h
  · cases h
    simp
  · cases h
    simp
  · obtain ⟨b, -, h⟩ := bind_eq_ok_iff.1 h
    split at h
    · obtain ⟨happend, hne⟩ := append_of_falling h
      refine ⟨?_, fun _ => hne⟩
      simpa [happend] using (run.reverse_perm.symm.append_right rest)
    · obtain ⟨happend, hne⟩ := append_of_rising h
      exact ⟨by simp [happend], fun _ => hne⟩

/-- A full run has elements of the list, at least one, and leaves the others. -/
theorem perm_of_fullRun {length : Nat} {run rest : List α}
    (h : fullRun less length xs = .ok (run, rest)) :
    (run ++ rest).Perm xs ∧ (xs ≠ [] → rest.length < xs.length) := by
  obtain ⟨⟨front, back⟩, hleading, h⟩ := bind_eq_ok_iff.1 h
  obtain ⟨items, hitems, h⟩ := bind_eq_ok_iff.1 h
  cases h
  obtain ⟨hperm, hne⟩ := perm_of_leadingRun hleading
  refine ⟨?_, fun hxs => ?_⟩
  · calc run ++ back.drop (length - front.length)
      _ ~ (front ++ back.take (length - front.length)) ++ back.drop (length - front.length) :=
        (perm_of_insertEach (fun _ _ _ => perm_of_insertHalving) hitems).append_right _
      _ = front ++ back := by rw [List.append_assoc, List.take_append_drop]
      _ ~ xs := hperm
  · have hlength := hperm.length_eq
    have hpos := List.length_pos_iff.2 (hne hxs)
    simp only [List.length_append, List.length_drop] at hlength ⊢
    omega

/-! ## Merging runs -/

/-- The elements of a stack of runs, which has the last run first, in their places. -/
def unstacked : List (Run α) → List α
  | [] => []
  | run :: rest => unstacked rest ++ run.items

theorem unstacked_withPower (p : Nat) (runs : List (Run α)) :
    unstacked (withPower p runs) = unstacked runs := by
  cases runs <;> rfl

theorem perm_of_settle {p threshold t : Nat} {runs settled : List (Run α)}
    (h : settle less p threshold runs = .ok (settled, t)) :
    (unstacked settled).Perm (unstacked runs) := by
  fun_induction settle less p threshold runs generalizing settled t with
  | case1 threshold z y rest hlt ih =>
    obtain ⟨⟨items, t'⟩, hitems, h⟩ := bind_eq_ok_iff.1 h
    have hperm := (perm_of_merge hitems).append_left (unstacked rest)
    exact (ih _ _ h).trans (by simpa [unstacked] using hperm)
  | case2 => cases h; rfl
  | case3 => cases h; rfl

theorem perm_of_push {total threshold t : Nat} {runs pushed : List (Run α)}
    (h : push less total threshold runs xs = .ok (pushed, t)) :
    (unstacked pushed).Perm (unstacked runs ++ xs) := by
  unfold push at h
  split at h
  · cases h
    rfl
  · obtain ⟨⟨settled, t'⟩, hsettled, h⟩ := bind_eq_ok_iff.1 h
    cases h
    rw [unstacked, unstacked_withPower]
    exact (perm_of_settle hsettled).append_right xs

theorem perm_of_joinAll {threshold : Nat} {runs : List (Run α)}
    (h : joinAll less threshold runs = .ok zs) : zs.Perm (unstacked runs) := by
  fun_induction joinAll less threshold runs generalizing zs with
  | case1 threshold z y x rest hlt ih =>
    obtain ⟨⟨items, t⟩, hitems, h⟩ := bind_eq_ok_iff.1 h
    have hperm := ((perm_of_merge hitems).append_left (unstacked rest)).append_right z.items
    exact (ih _ _ h).trans (by simpa [unstacked] using hperm)
  | case2 threshold z y x rest hlt ih =>
    obtain ⟨⟨items, t⟩, hitems, h⟩ := bind_eq_ok_iff.1 h
    have hperm := (perm_of_merge hitems).append_left (unstacked rest ++ x.items)
    exact (ih _ _ h).trans (by simpa [unstacked] using hperm)
  | case3 threshold z y =>
    obtain ⟨⟨items, t⟩, hitems, h⟩ := bind_eq_ok_iff.1 h
    cases h
    simpa [unstacked] using perm_of_merge hitems
  | case4 =>
    cases h
    simp [unstacked]
  | case5 =>
    cases h
    simp [unstacked]

/-! ## The sort -/

theorem perm_of_collect {total count threshold : Nat} {runs : List (Run α)}
    (h : collect less total count threshold runs xs = .ok zs) (hcount : xs.length ≤ count) :
    zs.Perm (unstacked runs ++ xs) := by
  induction count generalizing threshold runs xs with
  | zero =>
    obtain rfl : xs = [] := by simpa using hcount
    simpa using perm_of_joinAll h
  | succ count ih =>
    cases xs with
    | nil => simpa using perm_of_joinAll h
    | cons x xs =>
      obtain ⟨⟨items, rest⟩, hrun, h⟩ := bind_eq_ok_iff.1 h
      obtain ⟨⟨pushed, t⟩, hpushed, h⟩ := bind_eq_ok_iff.1 h
      obtain ⟨hperm, hfewer⟩ := perm_of_fullRun hrun
      have hrest : rest.length ≤ count := Nat.le_of_lt_succ
        (Nat.lt_of_lt_of_le (hfewer (List.cons_ne_nil x xs)) hcount)
      calc zs
        _ ~ unstacked pushed ++ rest := ih h hrest
        _ ~ (unstacked runs ++ items) ++ rest := (perm_of_push hpushed).append_right rest
        _ ~ unstacked runs ++ (x :: xs) := by
          rw [List.append_assoc]
          exact hperm.append_left _

/-- A list sorted by runs has the elements of the list. -/
theorem perm_of_runSort (h : runSort less xs = .ok zs) : zs.Perm xs :=
  perm_of_collect h (Nat.le_refl _)

end Chronicle.Sorting
