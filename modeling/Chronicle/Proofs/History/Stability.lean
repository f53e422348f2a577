import Chronicle.Proofs.History.Timeline
import Chronicle.Proofs.Sorting.Stable

/-!
# Stability of timelines

A list in the order of its moments is determined by the entries that it has at each instant, in
their order. Placing, arranging and sorting keep the order of the entries of one instant, so they
commute with every selection of entries: what a selection finds on a timeline depends only on the
entries that it selects.

## Main definitions

* `atInstant` — the entries of one instant.
* `stableSort` — the stable sort of a list by its moments.

## Main statements

* `Ordered.ext` — ordered lists with the same entries at every instant are equal.
* `Ordered.filter_place`, `filter_arranged` — selections of a placed and of an arranged list.
* `stableSort_eq_arranged`, `sort_eq_arranged` — sorting a list arranges it.
* `sort_append` — sorting a timeline with further entries places these.
-/

namespace Chronicle.Timeline

variable {α : Type} {stamp : α → Moment} {aware : Bool} {x : α} {xs ys : List α}

/-- The entries of a list that are stamped with an instant. -/
def atInstant (stamp : α → Moment) (instant : Int) (xs : List α) : List α :=
  xs.filter fun x => (stamp x).instant == instant

@[simp] theorem mem_atInstant {instant : Int} :
    x ∈ atInstant stamp instant xs ↔ x ∈ xs ∧ (stamp x).instant = instant := by
  simp [atInstant]

theorem Ordered.atInstant (instant : Int) : Ordered stamp (atInstant stamp instant xs) := by
  refine List.pairwise_iff_forall_sublist.2 fun {a b} hab => ?_
  have ha := (mem_atInstant.1 (hab.subset List.mem_cons_self)).2
  have hb := (mem_atInstant.1 (hab.subset (by simp : b ∈ [a, b]))).2
  omega

/-- Ordered lists with the same entries at every instant are equal. -/
theorem Ordered.ext (hxs : Ordered stamp xs) (hys : Ordered stamp ys)
    (heq : ∀ n, Timeline.atInstant stamp n xs = Timeline.atInstant stamp n ys) : xs = ys := by
  have hsorted : Sorting.Sorted (fun x => (stamp x).instant) xs := hxs
  exact hsorted.ext hys heq

/-! ## Selections -/

/-- What is selected from a list with a placed entry. -/
theorem Ordered.filter_place (h : Ordered stamp xs) (p : α → Bool) :
    (Timeline.place stamp x xs).filter p =
      if p x then Timeline.place stamp x (xs.filter p) else xs.filter p := by
  induction xs with
  | nil => simp [Timeline.place, List.filter_cons]
  | cons y rest ih =>
    obtain ⟨hy, hrest⟩ := List.pairwise_cons.1 h
    by_cases hlt : (stamp x).instant < (stamp y).instant
    · -- All entries are later, so the placed entry comes first among the selected ones too.
      have hfirst : Timeline.place stamp x ((y :: rest).filter p) = x :: (y :: rest).filter p := by
        cases hfilter : (y :: rest).filter p with
        | nil => rfl
        | cons z zs =>
          have hz : z ∈ y :: rest := List.mem_of_mem_filter (hfilter ▸ List.mem_cons_self)
          have hlater : (stamp x).instant < (stamp z).instant := by
            rcases List.mem_cons.1 hz with rfl | hz
            · exact hlt
            · exact Int.lt_of_lt_of_le hlt (hy z hz)
          rw [Timeline.place, List.orderedInsert_cons, if_pos hlater]
      rw [hfirst, Timeline.place, List.orderedInsert_cons, if_pos hlt, List.filter_cons]
    · have hplace : ∀ zs, Timeline.place stamp x (y :: zs) = y :: Timeline.place stamp x zs := by
        intro zs
        rw [Timeline.place, List.orderedInsert_cons, if_neg hlt]
      rw [hplace, List.filter_cons, List.filter_cons, ih hrest]
      by_cases hp : p y = true
      · rw [if_pos hp, if_pos hp, hplace]
        split <;> rfl
      · rw [if_neg hp, if_neg hp]

/-- What is selected from an arranged list is what is selected from the list, arranged. -/
theorem filter_arranged (p : α → Bool) :
    (arranged stamp xs).filter p = arranged stamp (xs.filter p) := by
  induction xs using List.reverseRecOn with
  | nil => rfl
  | append_singleton xs x ih =>
    rw [arranged_append_singleton, arranged_ordered.filter_place, ih, List.filter_append]
    by_cases hp : p x = true
    · simp [hp, arranged_append_singleton]
    · simp [hp]

/-- Arranging keeps the order of the entries of one instant. -/
theorem atInstant_arranged (instant : Int) :
    atInstant stamp instant (arranged stamp xs) = atInstant stamp instant xs :=
  (filter_arranged _).trans (arranged_eq_self (.atInstant instant))

/-- The first entry of an arranged list is the earliest, and the first in the list of those at its
instant. -/
theorem split_of_arranged {first : α} (h : arranged stamp xs = first :: ys) :
    ∃ front back, xs = front ++ first :: back ∧
      (∀ y ∈ front, (stamp first).instant < (stamp y).instant) ∧
      ∀ y ∈ back, (stamp first).instant ≤ (stamp y).instant := by
  induction xs using List.reverseRecOn generalizing first ys with
  | nil => cases h
  | append_singleton xs x ih =>
    rw [arranged_append_singleton] at h
    cases harranged : arranged stamp xs with
    | nil =>
      obtain rfl : xs = [] := arranged_eq_nil_iff.1 harranged
      cases h
      exact ⟨[], [], rfl, nofun, nofun⟩
    | cons y rest =>
      rw [harranged, place, List.orderedInsert_cons] at h
      split at h
      · rename_i hlt
        cases h
        refine ⟨xs, [], rfl, fun z hz => ?_, nofun⟩
        have hordered : Ordered stamp (y :: rest) := harranged ▸ arranged_ordered
        rcases List.mem_cons.1 (harranged ▸ arranged_perm.mem_iff.2 hz) with rfl | hz
        · exact hlt
        · exact Int.lt_of_lt_of_le hlt ((List.pairwise_cons.1 hordered).1 z hz)
      · cases h
        obtain ⟨front, back, rfl, hfront, hback⟩ := ih harranged
        refine ⟨front, back ++ [x], by simp, hfront, List.forall_mem_append.2 ⟨hback, ?_⟩⟩
        simp
        omega

/-! ## Sorting -/

/-- The list in the order of its moments; entries of one instant keep their order. -/
def stableSort (stamp : α → Moment) (xs : List α) : List α :=
  xs.mergeSort fun x y => decide ((stamp x).instant ≤ (stamp y).instant)

/-- The order by which entries are sorted is transitive. -/
theorem notAfter_trans (x y z : α) (hxy : decide ((stamp x).instant ≤ (stamp y).instant) = true)
    (hyz : decide ((stamp y).instant ≤ (stamp z).instant) = true) :
    decide ((stamp x).instant ≤ (stamp z).instant) = true :=
  decide_eq_true (Int.le_trans (of_decide_eq_true hxy) (of_decide_eq_true hyz))

/-- The order by which entries are sorted is total. -/
theorem notAfter_total (x y : α) : (decide ((stamp x).instant ≤ (stamp y).instant) ||
    decide ((stamp y).instant ≤ (stamp x).instant)) = true := by
  rw [Bool.or_eq_true, decide_eq_true_iff, decide_eq_true_iff]
  exact Int.le_total ..

/-- A stable sort keeps the order of the entries of one instant. -/
theorem atInstant_mergeSort (instant : Int) :
    atInstant stamp instant
        (xs.mergeSort fun x y => decide ((stamp x).instant ≤ (stamp y).instant)) =
      atInstant stamp instant xs := by
  have hordered : (atInstant stamp instant xs).Pairwise fun x y =>
      decide ((stamp x).instant ≤ (stamp y).instant) = true :=
    (Ordered.atInstant instant).imp decide_eq_true
  have hsublist := List.sublist_mergeSort notAfter_trans notAfter_total hordered
    List.filter_sublist
  have hkept := hsublist.filter fun x => (stamp x).instant == instant
  rw [atInstant, List.filter_filter] at hkept
  simp only [Bool.and_self] at hkept
  exact (hkept.eq_of_length ((List.mergeSort_perm xs _).filter _).length_eq.symm).symm

/-- A stable sort puts entries where they come to be if they are placed one after the other. -/
theorem stableSort_eq_arranged : stableSort stamp xs = arranged stamp xs := by
  refine Ordered.ext ?_ arranged_ordered fun n => ?_
  · exact (List.pairwise_mergeSort notAfter_trans notAfter_total xs).imp of_decide_eq_true
  · rw [stableSort, atInstant_mergeSort, atInstant_arranged]

/-- Sorting entries that can be compared with each other arranges them. -/
theorem sort_eq_arranged (h : Alike stamp aware xs) :
    sort stamp xs = .ok (arranged stamp xs) := by
  rw [sort, if_pos h.comparable, ← stableSort_eq_arranged, stableSort]

/-- Sorting a timeline with further entries places these one after the other. -/
theorem sort_append (hxs : Alike stamp aware xs) (hys : Alike stamp aware ys)
    (hordered : Ordered stamp xs) :
    sort stamp (xs ++ ys) = .ok (ys.foldl (fun placed y => place stamp y placed) xs) := by
  have halike : Alike stamp aware (xs ++ ys) := List.forall_mem_append.2 ⟨hxs, hys⟩
  rw [sort_eq_arranged halike, arranged_append, arranged_eq_self hordered]

end Chronicle.Timeline
