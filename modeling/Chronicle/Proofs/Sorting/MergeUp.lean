import Chronicle.Proofs.Sorting.Gallop
import Chronicle.Sorting.Merge

/-!
# Merging upwards

A merge upwards keeps what is merged in front of both runs, and keeps the elements of each key in
their order: a block of the first run may be merged if no element of the second run precedes it, a
block of the second run if it precedes what is left of the first. Every round merges an element, so
the rounds suffice.

## Main definitions

* `Progress.Advances` — a round that ends a merge, or leaves a merge of fewer elements.
* `Upwards` — where a merge upwards stands.

## Main statements

* `goOn_ok` — rounds that advance come to an end.
* `Upwards.countUp_ok`, `Upwards.gallopUp_ok` — the two kinds of round upwards.
* `mergeUp_ok` — the merge is the stable arrangement.
-/

namespace Chronicle.Sorting

variable {α ε : Type} {key : α → Int} {whole merged xs ys : List α}

/-! ## Rounds -/

/-- Whether a round of a merge ends with the stable arrangement of all elements, or leaves a merge
that stands somewhere with fewer elements left. -/
def Progress.Advances (key : α → Int) (whole : List α)
    (Stands : (merged first second : List α) → Prop) (size : Nat) : Progress α → Prop
  | finished zs => Arranges key whole zs
  | going _ merged xs ys => Stands merged xs ys ∧ xs.length + ys.length < size

section Progress

variable {Stands : List α → List α → List α → Prop} {size : Nat}

@[simp] theorem Progress.advances_finished {zs : List α} :
    (finished zs).Advances key whole Stands size ↔ Arranges key whole zs := .rfl

@[simp] theorem Progress.advances_going {pace : Pace} :
    (going pace merged xs ys).Advances key whole Stands size ↔
      Stands merged xs ys ∧ xs.length + ys.length < size := .rfl

/-- Rounds that advance come to the stable arrangement, if there are as many as elements. -/
theorem goOn_ok {round : Nat → Pace → List α → List α → List α → Except ε (Nat × Progress α)}
    {close : List α → List α → List α → List α}
    (hround : ∀ threshold pace merged xs ys, Stands merged xs ys →
      ∃ t p, round threshold pace merged xs ys = .ok (t, p) ∧
        p.Advances key whole Stands (xs.length + ys.length))
    (hclose : ∀ merged, Stands merged [] [] → Arranges key whole (close merged [] []))
    {rounds : Nat} (hstands : Stands merged xs ys) (hrounds : xs.length + ys.length ≤ rounds)
    (threshold : Nat) (pace : Pace) :
    ∃ zs t, goOn round close rounds threshold pace merged xs ys = .ok (zs, t) ∧
      Arranges key whole zs := by
  induction rounds generalizing threshold pace merged xs ys with
  | zero =>
    obtain ⟨rfl, rfl⟩ : xs = [] ∧ ys = [] := by simpa using hrounds
    exact ⟨_, threshold, rfl, hclose merged hstands⟩
  | succ rounds ih =>
    obtain ⟨t, p, hp, hadvances⟩ := hround threshold pace merged xs ys hstands
    rw [goOn, hp, ok_bind]
    cases p with
    | finished zs => exact ⟨zs, t, rfl, hadvances⟩
    | going next merged' xs' ys' =>
      obtain ⟨hnext, hfewer⟩ := hadvances
      exact ih hnext (by omega) _ _

end Progress

/-! ## Where a merge stands -/

/-- Where a merge upwards of all elements of a list stands. What is merged is kept with its last
element first. -/
structure Upwards (key : α → Int) (whole merged xs ys : List α) : Prop where
  /-- What is merged is in front of the first run. -/
  first : Sorted key (merged.reverse ++ xs)
  /-- What is merged is in front of the second run. -/
  second : Sorted key (merged.reverse ++ ys)
  /-- The elements of each key are in their order. -/
  same : SameByKey key (merged.reverse ++ (xs ++ ys)) whole
  /-- The last element of the first run belongs behind the second run. -/
  behind : ∀ x ∈ xs.getLast?, ∀ y ∈ ys, key y < key x

namespace Upwards

/-- The start of a merge. -/
theorem start (hxs : Sorted key xs) (hys : Sorted key ys)
    (hbehind : ∀ x ∈ xs.getLast?, ∀ y ∈ ys, key y < key x) :
    Upwards key (xs ++ ys) [] xs ys :=
  ⟨hxs, hys, .refl _, hbehind⟩

theorem first_sorted (h : Upwards key whole merged xs ys) : Sorted key xs :=
  (sorted_append.1 h.first).2.1

theorem second_sorted (h : Upwards key whole merged xs ys) : Sorted key ys :=
  (sorted_append.1 h.second).2.1

theorem compares {less : α → α → Except ε Bool} (h : Upwards key whole merged xs ys)
    (hless : Compares less key whole) : Compares less key (xs ++ ys) :=
  hless.subset fun _ hz => h.same.mem_iff.1 (List.mem_append_right _ hz)

/-- Merging a block of the first run that the second run does not precede. -/
theorem takeFirst (front : List α) (h : Upwards key whole merged (front ++ xs) ys)
    (hle : ∀ x ∈ front, ∀ y ∈ ys, key x ≤ key y) :
    Upwards key whole (front.reverse ++ merged) xs ys where
  first := by simpa using h.first
  second := by
    obtain ⟨hfirst, -, -⟩ := sorted_append.1 (List.append_assoc .. ▸ h.first)
    obtain ⟨-, hys, hmerged⟩ := sorted_append.1 h.second
    simp only [List.reverse_append, List.reverse_reverse]
    exact sorted_append.2 ⟨hfirst, hys, by grind⟩
  same := by simpa using h.same
  behind := fun x hx => h.behind x (by grind)

/-- Merging a block of the second run that precedes the first run. -/
theorem takeSecond (front : List α) (h : Upwards key whole merged xs (front ++ ys))
    (hlt : ∀ y ∈ front, ∀ x ∈ xs, key y < key x) :
    Upwards key whole (front.reverse ++ merged) xs ys where
  first := by
    obtain ⟨hsecond, -, -⟩ := sorted_append.1 (List.append_assoc .. ▸ h.second)
    obtain ⟨-, hxs, hmerged⟩ := sorted_append.1 h.first
    simp only [List.reverse_append, List.reverse_reverse]
    exact sorted_append.2 ⟨hsecond, hxs, by grind⟩
  second := by simpa using h.second
  same := by
    have hswap : SameByKey key (front ++ xs) (xs ++ front) :=
      .swap fun y hy x hx => Int.ne_of_lt (hlt y hy x hx)
    refine .trans ?_ h.same
    simpa using (SameByKey.refl merged.reverse).append (hswap.append (.refl ys))
  behind := fun x hx y hy => h.behind x hx y (List.mem_append_right _ hy)

/-- The end of a merge whose second run precedes the first run. -/
theorem finish (h : Upwards key whole merged xs ys) (hlt : ∀ x ∈ xs, ∀ y ∈ ys, key y < key x) :
    Arranges key whole (merged.reverse ++ (ys ++ xs)) := by
  have hend : Upwards key whole (ys.reverse ++ merged) xs [] :=
    takeSecond ys (by simpa using h) fun y hy x hx => hlt x hx y hy
  exact ⟨by simpa using hend.first, by simpa using hend.same⟩

/-- The end of a merge of which the first run has one element left. -/
theorem finish_last {x : α} (h : Upwards key whole merged [x] ys) :
    Arranges key whole (merged.reverse ++ (ys ++ [x])) :=
  h.finish fun z hz y hy => h.behind z (by grind) y hy

/-! ## Rounds upwards -/

section Rounds

variable {less : α → α → Except ε Bool}

theorem countUp_ok (h : Upwards key whole merged xs ys) (hless : Compares less key whole)
    (threshold firstWins secondWins : Nat) :
    ∃ p, countUp less threshold firstWins secondWins merged xs ys = .ok p ∧
      p.Advances key whole (Upwards key whole) (xs.length + ys.length) := by
  have hcompares := h.compares hless
  fun_cases countUp less threshold firstWins secondWins merged xs ys with
  | case1 x xs y ys =>
    have hxs := List.pairwise_cons.1 h.first_sorted
    have hys := List.pairwise_cons.1 h.second_sorted
    rw [hcompares y (by simp) x (by simp), ok_bind]
    by_cases hlt : key y < key x
    · have hnext : Upwards key whole (y :: merged) (x :: xs) ys :=
        takeSecond [y] h (by grind)
      rw [if_pos (decide_eq_true hlt)]
      cases ys with
      | nil => exact ⟨_, rfl, by simpa using hnext.finish (by simp)⟩
      | cons z zs => exact ⟨_, rfl, hnext, by simp⟩
    · have hnext : Upwards key whole (x :: merged) xs (y :: ys) :=
        takeFirst [x] h (by grind)
      rw [if_neg (by simpa using hlt)]
      by_cases hone : xs.length = 1
      · obtain ⟨z, rfl⟩ := List.length_eq_one_iff.1 hone
        exact ⟨_, rfl, by simpa using hnext.finish_last⟩
      · rw [if_neg hone]
        exact ⟨_, rfl, hnext, by simp⟩
  | case2 xs ys hnil =>
    refine ⟨_, rfl, ?_⟩
    cases xs with
    | nil => simpa using h.finish (by simp)
    | cons x xs =>
      cases ys with
      | nil => simpa using h.finish (by simp)
      | cons y ys => exact (hnil x xs y ys rfl rfl).elim

theorem gallopUp_ok (h : Upwards key whole merged xs ys) (hless : Compares less key whole) :
    ∃ p, gallopUp less merged xs ys = .ok p ∧
      p.Advances key whole (Upwards key whole) (xs.length + ys.length) := by
  have hcompares := h.compares hless
  cases ys with
  | nil =>
    refine ⟨.finished (merged.reverse ++ xs), by simp [gallopUp], ?_⟩
    simpa using h.finish (by simp)
  | cons y ys =>
    have hys := List.pairwise_cons.1 h.second_sorted
    obtain ⟨m, hm, -, hle, hlt⟩ := gallopRight_split y 0
      (hcompares.subset (by grind)) h.first_sorted (Nat.zero_le _)
    have hfirst : Upwards key whole ((xs.take m).reverse ++ merged) (xs.drop m) (y :: ys) :=
      takeFirst (xs.take m) (by simpa using h) (by grind)
    have hlength : (xs.drop m).length ≤ xs.length := by simp
    simp only [gallopUp, hm, ok_bind]
    generalize xs.drop m = rest at *
    match rest with
    | [] => exact ⟨_, rfl, by simpa using hfirst.finish (by simp)⟩
    | [x] => exact ⟨_, rfl, by simpa using hfirst.finish_last⟩
    | x :: z :: rest =>
      have hxs := List.pairwise_cons.1 hfirst.first_sorted
      have hsecond : Upwards key whole (y :: ((xs.take m).reverse ++ merged)) (x :: z :: rest) ys :=
        takeSecond [y] hfirst (by grind)
      obtain ⟨n, hn, -, hbelow, habove⟩ := gallopLeft_split x 0
        ((hsecond.compares hless).subset (by grind)) hys.2 (Nat.zero_le _)
      have hblock : Upwards key whole
          ((ys.take n).reverse ++ y :: ((xs.take m).reverse ++ merged)) (x :: z :: rest)
          (ys.drop n) :=
        takeSecond (ys.take n) (by simpa using hsecond) (by grind)
      have hnext : Upwards key whole
          (x :: ((ys.take n).reverse ++ y :: ((xs.take m).reverse ++ merged))) (z :: rest)
          (ys.drop n) :=
        takeFirst [x] hblock (by grind)
      simp only [hn, ok_bind]
      split
      · rename_i hempty
        obtain rfl := List.isEmpty_iff.1 hempty
        exact ⟨_, rfl, by simpa using hsecond.finish (by simp)⟩
      split
      · rename_i hempty
        rw [List.isEmpty_iff.1 hempty] at hblock
        exact ⟨_, rfl, by simpa using hblock.finish (by simp)⟩
      split
      · rename_i hone
        obtain rfl : rest = [] := by simpa using hone
        exact ⟨_, rfl, by simpa using hnext.finish_last⟩
      · exact ⟨_, rfl, hnext, by simp at hlength ⊢; omega⟩

theorem roundUp_ok (h : Upwards key whole merged xs ys) (hless : Compares less key whole)
    (threshold : Nat) (pace : Pace) :
    ∃ t p, roundUp less threshold pace merged xs ys = .ok (t, p) ∧
      p.Advances key whole (Upwards key whole) (xs.length + ys.length) := by
  cases pace with
  | counting m n =>
    obtain ⟨p, hp, hadvances⟩ := h.countUp_ok hless threshold m n
    exact ⟨threshold, p, by simp [roundUp, hp], hadvances⟩
  | galloping =>
    obtain ⟨p, hp, hadvances⟩ := h.gallopUp_ok hless
    exact ⟨max 1 (threshold - 1), p, by simp [roundUp, hp], hadvances⟩

end Rounds

end Upwards

/-! ## The merge -/

/-- The merge of two sorted runs, of which the first begins behind the first element of the second
and ends behind the second. -/
theorem mergeUp_ok {less : α → α → Except ε Bool} (hless : Compares less key (xs ++ ys))
    (hxs : Sorted key xs) (hys : Sorted key ys)
    (hahead : ∀ y ∈ ys.head?, ∀ x ∈ xs, key y < key x)
    (hbehind : ∀ x ∈ xs.getLast?, ∀ y ∈ ys, key y < key x) (threshold : Nat) :
    ∃ zs t, mergeUp less threshold xs ys = .ok (zs, t) ∧ Arranges key (xs ++ ys) zs := by
  have hstart := Upwards.start hxs hys hbehind
  cases ys with
  | nil => exact ⟨xs, threshold, rfl, by simpa using hstart.finish (by simp)⟩
  | cons y ys =>
    have hnext : Upwards key (xs ++ y :: ys) [y] xs ys :=
      Upwards.takeSecond [y] hstart (by simpa using hahead y rfl)
    simp only [mergeUp]
    split
    · rename_i hempty
      obtain rfl := List.isEmpty_iff.1 hempty
      exact ⟨_, _, rfl, by simpa using hnext.finish (by simp)⟩
    split
    · rename_i hone
      obtain ⟨x, rfl⟩ := List.length_eq_one_iff.1 hone
      exact ⟨_, _, rfl, by simpa using hstart.finish_last⟩
    · refine goOn_ok (fun t pace _ _ _ h => h.roundUp_ok hless t pace) (fun merged h => ?_) hnext
        (Nat.le_refl _) _ _
      simpa [closeUp] using h.finish (by simp)

end Chronicle.Sorting
