import Chronicle.Proofs.Sorting.MergeUp

/-!
# Merging downwards

A merge downwards is a merge upwards seen from the other end: what is merged is behind both runs, a
block of the first run may be merged if the second run precedes it, and a block of the second run if
it does not precede what is left of the first.

## Main definitions

* `Downwards` — where a merge downwards stands.

## Main statements

* `Downwards.countDown_ok`, `Downwards.gallopDown_ok` — the two kinds of round downwards.
* `mergeDown_ok`, `merge_ok` — the merge is the stable arrangement.
-/

namespace Chronicle.Sorting

variable {α ε : Type} {key : α → Int} {whole merged xs ys : List α}

/-! ## Where a merge stands -/

/-- Where a merge downwards of all elements of a list stands. Both runs are kept with their last
elements first. -/
structure Downwards (key : α → Int) (whole merged xs ys : List α) : Prop where
  /-- What is merged is behind the first run. -/
  first : Sorted key (xs.reverse ++ merged)
  /-- What is merged is behind the second run. -/
  second : Sorted key (ys.reverse ++ merged)
  /-- The elements of each key are in their order. -/
  same : SameByKey key (xs.reverse ++ (ys.reverse ++ merged)) whole
  /-- The first element of the second run belongs in front of the first run. -/
  ahead : ∀ y ∈ ys.getLast?, ∀ x ∈ xs, key y < key x

namespace Downwards

/-- The start of a merge. -/
theorem start (hxs : Sorted key xs) (hys : Sorted key ys)
    (hahead : ∀ y ∈ ys.head?, ∀ x ∈ xs, key y < key x) :
    Downwards key (xs ++ ys) [] xs.reverse ys.reverse where
  first := by simpa using hxs
  second := by simpa using hys
  same := by simpa using .refl _
  ahead := by simpa using hahead

theorem first_sorted (h : Downwards key whole merged xs ys) : Sorted key xs.reverse :=
  (sorted_append.1 h.first).1

theorem second_sorted (h : Downwards key whole merged xs ys) : Sorted key ys.reverse :=
  (sorted_append.1 h.second).1

/-- The next element of the first run is the greatest. -/
theorem le_first {x : α} (h : Downwards key whole merged (x :: xs) ys) :
    ∀ z ∈ xs, key z ≤ key x := by
  obtain ⟨-, -, hle⟩ := sorted_append.1 (List.reverse_cons ▸ h.first_sorted)
  exact fun z hz => hle z (List.mem_reverse.2 hz) x List.mem_cons_self

/-- The next element of the second run is the greatest. -/
theorem le_second {y : α} (h : Downwards key whole merged xs (y :: ys)) :
    ∀ z ∈ ys, key z ≤ key y := by
  obtain ⟨-, -, hle⟩ := sorted_append.1 (List.reverse_cons ▸ h.second_sorted)
  exact fun z hz => hle z (List.mem_reverse.2 hz) y List.mem_cons_self

theorem compares {less : α → α → Except ε Bool} (h : Downwards key whole merged xs ys)
    (hless : Compares less key whole) : Compares less key (xs ++ ys) :=
  hless.subset fun _ hz => h.same.mem_iff.1 (by grind)

/-- Merging a block of the first run that the second run precedes. -/
theorem takeFirst (back : List α) (h : Downwards key whole merged (back ++ xs) ys)
    (hlt : ∀ x ∈ back, ∀ y ∈ ys, key y < key x) :
    Downwards key whole (back.reverse ++ merged) xs ys where
  first := by simpa using h.first
  second := by
    have hfirst : Sorted key (xs.reverse ++ (back.reverse ++ merged)) := by simpa using h.first
    obtain ⟨hys, -, hmerged⟩ := sorted_append.1 h.second
    exact sorted_append.2 ⟨hys, (sorted_append.1 hfirst).2.1, by grind⟩
  same := by
    have hswap : SameByKey key (ys.reverse ++ back.reverse) (back.reverse ++ ys.reverse) :=
      .swap fun y hy x hx => Int.ne_of_lt (hlt x (by simpa using hx) y (by simpa using hy))
    refine .trans ?_ h.same
    simpa using (SameByKey.refl xs.reverse).append (hswap.append (.refl merged))
  ahead := fun y hy x hx => h.ahead y hy x (List.mem_append_right _ hx)

/-- Merging a block of the second run that does not precede the first run. -/
theorem takeSecond (back : List α) (h : Downwards key whole merged xs (back ++ ys))
    (hle : ∀ y ∈ back, ∀ x ∈ xs, key x ≤ key y) :
    Downwards key whole (back.reverse ++ merged) xs ys where
  first := by
    have hsecond : Sorted key (ys.reverse ++ (back.reverse ++ merged)) := by simpa using h.second
    obtain ⟨hxs, -, hmerged⟩ := sorted_append.1 h.first
    exact sorted_append.2 ⟨hxs, (sorted_append.1 hsecond).2.1, by grind⟩
  second := by simpa using h.second
  same := by simpa using h.same
  ahead := fun y hy => h.ahead y (by grind)

/-- The end of a merge whose second run precedes the first run. -/
theorem finish (h : Downwards key whole merged xs ys) (hlt : ∀ x ∈ xs, ∀ y ∈ ys, key y < key x) :
    Arranges key whole (ys.reverse ++ (xs.reverse ++ merged)) := by
  have hend : Downwards key whole (xs.reverse ++ merged) [] ys :=
    takeFirst xs (by simpa using h) hlt
  exact ⟨hend.second, by simpa using hend.same⟩

/-- The end of a merge of which the second run has one element left. -/
theorem finish_last {y : α} (h : Downwards key whole merged xs [y]) :
    Arranges key whole (y :: (xs.reverse ++ merged)) :=
  h.finish fun x hx z hz => h.ahead z (by grind) x hx

/-! ## Rounds downwards -/

section Rounds

variable {less : α → α → Except ε Bool}

theorem countDown_ok (h : Downwards key whole merged xs ys) (hless : Compares less key whole)
    (threshold firstWins secondWins : Nat) :
    ∃ p, countDown less threshold firstWins secondWins merged xs ys = .ok p ∧
      p.Advances key whole (Downwards key whole) (xs.length + ys.length) := by
  have hcompares := h.compares hless
  fun_cases countDown less threshold firstWins secondWins merged xs ys with
  | case1 x xs y ys =>
    have hxs := h.le_first
    have hys := h.le_second
    rw [hcompares y (by simp) x (by simp), ok_bind]
    by_cases hlt : key y < key x
    · have hnext : Downwards key whole (x :: merged) xs (y :: ys) :=
        takeFirst [x] h (by grind)
      rw [if_pos (decide_eq_true hlt)]
      cases xs with
      | nil => exact ⟨_, rfl, by simpa using hnext.finish (by simp)⟩
      | cons z zs => exact ⟨_, rfl, hnext, by simp⟩
    · have hnext : Downwards key whole (y :: merged) (x :: xs) ys :=
        takeSecond [y] h (by grind)
      rw [if_neg (by simpa using hlt)]
      by_cases hone : ys.length = 1
      · obtain ⟨z, rfl⟩ := List.length_eq_one_iff.1 hone
        exact ⟨_, rfl, by simpa using hnext.finish_last⟩
      · rw [if_neg hone]
        exact ⟨_, rfl, hnext, by simp⟩
  | case2 xs ys hnil =>
    refine ⟨_, rfl, ?_⟩
    cases xs with
    | nil => simpa using h.finish (by simp)
    | cons x xs =>
      cases ys with
      | nil => simpa using h.finish (by simp)
      | cons y ys => exact (hnil x xs y ys rfl rfl).elim

/-- A run that is kept with its last element first, cut at the place of a key. -/
theorem take_drop_of_reverse {P Q : α → Prop} {n : Nat} (hfront : ∀ x ∈ xs.reverse.take n, P x)
    (hback : ∀ x ∈ xs.reverse.drop n, Q x) :
    (∀ x ∈ xs.take (xs.length - n), Q x) ∧ ∀ x ∈ xs.drop (xs.length - n), P x := by
  rw [List.drop_reverse] at hback
  rw [List.take_reverse] at hfront
  exact ⟨by simpa using hback, by simpa using hfront⟩

theorem gallopDown_ok (h : Downwards key whole merged xs ys) (hless : Compares less key whole) :
    ∃ p, gallopDown less merged xs ys = .ok p ∧
      p.Advances key whole (Downwards key whole) (xs.length + ys.length) := by
  have hcompares := h.compares hless
  cases ys with
  | nil =>
    refine ⟨.finished (xs.reverse ++ merged), by simp [gallopDown], ?_⟩
    simpa using h.finish (by simp)
  | cons y ys =>
    have hys := h.le_second
    obtain ⟨r, hr, -, hfront, hback⟩ := gallopRight_split y (xs.length - 1)
      (hcompares.subset (by grind)) h.first_sorted (by simp)
    obtain ⟨hlt, hle⟩ := take_drop_of_reverse hfront hback
    have hfirst : Downwards key whole ((xs.take (xs.length - r)).reverse ++ merged)
        (xs.drop (xs.length - r)) (y :: ys) :=
      takeFirst (xs.take (xs.length - r)) (by simpa using h) (by grind)
    have hsecond : Downwards key whole (y :: ((xs.take (xs.length - r)).reverse ++ merged))
        (xs.drop (xs.length - r)) ys :=
      takeSecond [y] hfirst (by grind)
    have hlength : (xs.drop (xs.length - r)).length ≤ xs.length := by simp
    simp only [gallopDown, hr, ok_bind]
    generalize xs.length - r = m at *
    generalize xs.drop m = rest at *
    match rest with
    | [] => exact ⟨_, rfl, by simpa using hsecond.finish (by simp)⟩
    | x :: rest =>
      have hxs := hsecond.le_first
      obtain ⟨l, hl, -, hfront, hback⟩ := gallopLeft_split x (ys.length - 1)
        ((hsecond.compares hless).subset (by grind)) hsecond.second_sorted (by simp)
      obtain ⟨habove, hbelow⟩ := take_drop_of_reverse hfront hback
      generalize hn : ys.length - l = n at *
      have hblock : Downwards key whole
          ((ys.take n).reverse ++ y :: ((xs.take m).reverse ++ merged)) (x :: rest) (ys.drop n) :=
        takeSecond (ys.take n) (by simpa using hsecond) (by grind)
      have hnext : Downwards key whole
          (x :: ((ys.take n).reverse ++ y :: ((xs.take m).reverse ++ merged))) rest (ys.drop n) :=
        takeFirst [x] hblock (by grind)
      simp only [hl, ok_bind, hn]
      split
      · rename_i hone
        obtain ⟨z, rfl⟩ := List.length_eq_one_iff.1 hone
        exact ⟨_, rfl, by simpa using hsecond.finish_last⟩
      split
      · rename_i hfew
        refine ⟨_, rfl, ?_⟩
        generalize ys.drop n = others at *
        match others with
        | [] => simpa using hblock.finish (by simp)
        | [z] => simpa using hblock.finish_last
        | _ :: _ :: _ => simp at hfew
      split
      · rename_i hempty
        obtain rfl := List.isEmpty_iff.1 hempty
        exact ⟨_, rfl, by simpa using hnext.finish (by simp)⟩
      · exact ⟨_, rfl, hnext, by simp at hlength ⊢; omega⟩

theorem roundDown_ok (h : Downwards key whole merged xs ys) (hless : Compares less key whole)
    (threshold : Nat) (pace : Pace) :
    ∃ t p, roundDown less threshold pace merged xs ys = .ok (t, p) ∧
      p.Advances key whole (Downwards key whole) (xs.length + ys.length) := by
  cases pace with
  | counting m n =>
    obtain ⟨p, hp, hadvances⟩ := h.countDown_ok hless threshold m n
    exact ⟨threshold, p, by simp [roundDown, hp], hadvances⟩
  | galloping =>
    obtain ⟨p, hp, hadvances⟩ := h.gallopDown_ok hless
    exact ⟨max 1 (threshold - 1), p, by simp [roundDown, hp], hadvances⟩

end Rounds

end Downwards

/-! ## The merge -/

section Merge

variable {less : α → α → Except ε Bool}

/-- The merge of two sorted runs, of which the first begins behind the first element of the second
and ends behind the second. -/
theorem mergeDown_ok (hless : Compares less key (xs ++ ys)) (hxs : Sorted key xs)
    (hys : Sorted key ys) (hahead : ∀ y ∈ ys.head?, ∀ x ∈ xs, key y < key x)
    (hbehind : ∀ x ∈ xs.getLast?, ∀ y ∈ ys, key y < key x) (threshold : Nat) :
    ∃ zs t, mergeDown less threshold xs ys = .ok (zs, t) ∧ Arranges key (xs ++ ys) zs := by
  have hstart := Downwards.start hxs hys hahead
  cases hreverse : xs.reverse with
  | nil =>
    refine ⟨ys, threshold, by simp [mergeDown, hreverse], ?_⟩
    simpa [hreverse] using hstart.finish (by simp [hreverse])
  | cons x rest =>
    rw [hreverse] at hstart
    have hlast : xs.getLast? = some x := by rw [← List.head?_reverse, hreverse]; rfl
    have hnext : Downwards key (xs ++ ys) [x] rest ys.reverse :=
      Downwards.takeFirst [x] hstart (by simpa using hbehind x hlast)
    simp only [mergeDown, hreverse]
    split
    · rename_i hempty
      obtain rfl := List.isEmpty_iff.1 hempty
      exact ⟨_, _, rfl, by simpa using hnext.finish (by simp)⟩
    split
    · rename_i hone
      obtain ⟨y, rfl⟩ := List.length_eq_one_iff.1 hone
      refine ⟨_, _, rfl, ?_⟩
      simpa [← hreverse] using hstart.finish_last
    · refine goOn_ok (fun t pace _ _ _ h => h.roundDown_ok hless t pace) (fun merged h => ?_) hnext
        (by simp) _ _
      simpa [closeDown] using h.finish (by simp)

theorem mergeShorter_ok (hless : Compares less key (xs ++ ys)) (hxs : Sorted key xs)
    (hys : Sorted key ys) (hahead : ∀ y ∈ ys.head?, ∀ x ∈ xs, key y < key x)
    (hbehind : ∀ x ∈ xs.getLast?, ∀ y ∈ ys, key y < key x) (threshold : Nat) :
    ∃ zs t, mergeShorter less threshold xs ys = .ok (zs, t) ∧ Arranges key (xs ++ ys) zs := by
  unfold mergeShorter
  split
  · exact mergeUp_ok hless hxs hys hahead hbehind threshold
  · exact mergeDown_ok hless hxs hys hahead hbehind threshold

/-- The merge of two sorted runs is the stable arrangement of both. -/
theorem merge_ok (hless : Compares less key (xs ++ ys)) (hxs : Sorted key xs) (hys : Sorted key ys)
    (threshold : Nat) :
    ∃ zs t, merge less threshold xs ys = .ok (zs, t) ∧ Arranges key (xs ++ ys) zs := by
  cases ys with
  | nil => exact ⟨xs, threshold, rfl, by simpa using hxs, by simpa using .refl _⟩
  | cons y ys =>
    obtain ⟨m, hm, -, hle, hlt⟩ := gallopRight_split y 0
      (hless.subset (by grind)) hxs (Nat.zero_le _)
    have hcut : xs.take m ++ xs.drop m = xs := List.take_append_drop m xs
    simp only [merge, hm, ok_bind]
    generalize xs.take m = front at *
    generalize xs.drop m = middle at *
    subst hcut
    obtain ⟨hfront, hmiddle, hordered⟩ := sorted_append.1 hxs
    obtain ⟨hy, -⟩ := List.pairwise_cons.1 hys
    cases hlast : middle.getLast? with
    | none =>
      obtain rfl := List.getLast?_eq_none_iff.1 hlast
      exact ⟨_, _, rfl, sorted_append.2 ⟨hxs, hys, by grind⟩, .refl _⟩
    | some x =>
      have hmax : ∀ z ∈ middle, key z ≤ key x := hmiddle.le_getLast hlast
      have hx : x ∈ middle := List.mem_of_getLast? hlast
      obtain ⟨n, hn, -, hbelow, habove⟩ := gallopLeft_split x ((y :: ys).length - 1)
        (hless.subset (by grind)) hys (Nat.le_refl _)
      have hahead : ∀ z ∈ ((y :: ys).take n).head?, ∀ x ∈ middle, key z < key x := by
        intro z hz
        cases n with
        | zero => cases hz
        | succ n =>
          cases hz
          exact hlt
      have hpos : n ≠ 0 := by
        rintro rfl
        grind
      have hcut : (y :: ys).take n ++ (y :: ys).drop n = y :: ys := List.take_append_drop ..
      simp only [hn, ok_bind, if_neg hpos]
      generalize (y :: ys).take n = block at *
      generalize (y :: ys).drop n = back at *
      rw [← hcut] at hless hys ⊢
      obtain ⟨hblock, hback, hordered'⟩ := sorted_append.1 hys
      obtain ⟨zs, t, hzs, harranges⟩ := mergeShorter_ok (hless.subset (by grind)) hmiddle hblock
        hahead (by simpa [hlast] using hbelow) threshold
      have hends : Sorted key (front ++ back) := sorted_append.2 ⟨hfront, hback, by grind⟩
      have hbetween : ∀ z ∈ middle ++ block, Sorted key (front ++ z :: back) := by
        intro z hz
        refine sorted_append.2 ⟨hfront, List.pairwise_cons.2 ⟨?_, hback⟩, ?_⟩ <;> grind
      rw [hzs, ok_bind]
      exact ⟨_, t, rfl, by simpa using harranges.between front back hends hbetween⟩

end Merge

end Chronicle.Sorting
