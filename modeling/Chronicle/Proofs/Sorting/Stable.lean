import Mathlib.Data.List.Perm.Basic
import Mathlib.Data.List.Sort

/-!
# Stable arrangements

A list that is sorted by a key is determined by the elements it has of each key, in their order. So
a list has one stable arrangement, whichever way it is found: a sort is stable if it brings nothing
out of order that has one key.

## Main definitions

* `Sorted` — a list in the order of its keys.
* `SameByKey` — two lists with the same elements of each key, in the same order.
* `Arranges` — a list that is the stable arrangement of another.

## Main statements

* `SameByKey.swap` — neighbouring blocks without a common key may be swapped.
* `SameByKey.perm` — elements of each key together are all elements.
* `Sorted.ext`, `Arranges.unique` — there is one stable arrangement.
-/

namespace Chronicle.Sorting

variable {α : Type} {key : α → Int} {x y : α} {ws xs ys zs : List α}

/-- Whether the elements of a list are in the order of their keys. -/
def Sorted (key : α → Int) (xs : List α) : Prop := xs.Pairwise fun x y => key x ≤ key y

/-- The elements of a list that have a key. -/
def withKey (key : α → Int) (k : Int) (xs : List α) : List α := xs.filter fun x => key x == k

/-- Whether two lists have the same elements of each key, in the same order. -/
def SameByKey (key : α → Int) (xs ys : List α) : Prop := ∀ k, withKey key k xs = withKey key k ys

/-- Whether the second list is the stable arrangement of the first. -/
structure Arranges (key : α → Int) (xs ys : List α) : Prop where
  sorted : Sorted key ys
  same : SameByKey key ys xs

/-! ## Elements of one key -/

@[simp] theorem mem_withKey {k : Int} : x ∈ withKey key k xs ↔ x ∈ xs ∧ key x = k := by
  simp [withKey]

theorem withKey_cons (k : Int) :
    withKey key k (x :: xs) = if key x = k then x :: withKey key k xs else withKey key k xs := by
  simp [withKey, List.filter_cons]

@[simp] theorem withKey_append (k : Int) :
    withKey key k (xs ++ ys) = withKey key k xs ++ withKey key k ys :=
  List.filter_append ..

theorem withKey_reverse (k : Int) : withKey key k xs.reverse = (withKey key k xs).reverse :=
  List.filter_reverse

/-- Elements of different keys are of one key only one at a time. -/
theorem withKey_eq_singleton (h : xs.Pairwise fun x y => key x ≠ key y) (k : Int) :
    withKey key k xs = [] ∨ ∃ x, withKey key k xs = [x] := by
  induction xs with
  | nil => exact .inl rfl
  | cons x xs ih =>
    obtain ⟨hx, hxs⟩ := List.pairwise_cons.1 h
    rw [withKey_cons]
    by_cases hk : key x = k
    · have hnone : withKey key k xs = [] := List.filter_eq_nil_iff.2 fun y hy => by grind
      exact .inr ⟨x, by simp [hk, hnone]⟩
    · rw [if_neg hk]
      exact ih hxs

/-! ## Lists with the same elements of each key -/

/-- Lists with the same elements of each key, up to their order, are permutations of each other. -/
theorem perm_of_filters {κ : Type} [DecidableEq κ] (key : α → κ)
    (h : ∀ k, (xs.filter (key · = k)).Perm (ys.filter (key · = k))) : xs.Perm ys := by
  classical
  refine List.perm_iff_count.2 fun x => ?_
  have hcount := (h (key x)).count_eq x
  rwa [List.count_filter (by simp), List.count_filter (by simp)] at hcount

namespace SameByKey

theorem refl (xs : List α) : SameByKey key xs xs := fun _ => rfl

theorem symm (h : SameByKey key xs ys) : SameByKey key ys xs := fun k => (h k).symm

theorem trans (hxy : SameByKey key xs ys) (hyz : SameByKey key ys zs) : SameByKey key xs zs :=
  fun k => (hxy k).trans (hyz k)

theorem append (hxs : SameByKey key ws xs) (hys : SameByKey key ys zs) :
    SameByKey key (ws ++ ys) (xs ++ zs) := fun k => by
  rw [withKey_append, withKey_append, hxs k, hys k]

/-- Neighbouring blocks that have no key in common may be swapped. -/
theorem swap (h : ∀ x ∈ xs, ∀ y ∈ ys, key x ≠ key y) : SameByKey key (xs ++ ys) (ys ++ xs) := by
  intro k
  by_cases hk : ∃ x ∈ xs, key x = k
  · obtain ⟨x, hx, rfl⟩ := hk
    have hnone : withKey key (key x) ys = [] :=
      List.filter_eq_nil_iff.2 fun y hy => by grind
    simp [hnone]
  · have hnone : withKey key k xs = [] := List.filter_eq_nil_iff.2 fun x hx => by grind
    simp [hnone]

/-- A list of different keys may be reversed. -/
theorem reverse (h : xs.Pairwise fun x y => key x ≠ key y) : SameByKey key xs.reverse xs := by
  intro k
  rw [withKey_reverse]
  rcases withKey_eq_singleton h k with hk | ⟨x, hk⟩ <;> simp [hk]

theorem mem_iff (h : SameByKey key xs ys) : x ∈ xs ↔ x ∈ ys := by
  have hx := congrArg (x ∈ ·) (h (key x))
  simpa using hx

/-- Lists with the same elements of each key have the same elements. -/
theorem perm (h : SameByKey key xs ys) : xs.Perm ys :=
  perm_of_filters key fun k => .of_eq (h k)

/-- What is shown of some elements by another key: the elements shown with one key are all shown
alike, or they are those of one key of their own. -/
theorem map_filter {β : Type} {keep : α → Bool} {f : α → β} {key' : β → Int}
    (h : SameByKey key xs ys)
    (hshown : ∀ y ∈ ys, keep y = true →
      (∀ x ∈ ys, keep x = true → key' (f x) = key' (f y) → f x = f y) ∨
      ∀ x ∈ ys, keep x = true ∧ key' (f x) = key' (f y) ↔ key x = key y) :
    SameByKey key' ((xs.filter keep).map f) ((ys.filter keep).map f) := by
  intro k
  let shown (x : α) : Bool := keep x && key' (f x) == k
  have hselect (zs : List α) :
      withKey key' k ((zs.filter keep).map f) = (zs.filter shown).map f := by
    rw [withKey, List.filter_map, List.filter_filter]
    exact congrArg _ (List.filter_congr fun z _ => Bool.and_comm ..)
  rw [hselect, hselect]
  have hperm := (h.perm.filter shown).map f
  by_cases hk : ∃ y ∈ ys, shown y = true
  · obtain ⟨y, hy, hyk⟩ := hk
    obtain ⟨hkeep, rfl⟩ : keep y = true ∧ key' (f y) = k := by simpa [shown] using hyk
    rcases hshown y hy hkeep with halike | hsame
    · have hall : ∀ z ∈ (ys.filter shown).map f, z = f y := by
        intro z hz
        obtain ⟨x, hx, rfl⟩ := List.mem_map.1 hz
        obtain ⟨hx, hxk⟩ := List.mem_filter.1 hx
        obtain ⟨hxkeep, hxkey⟩ : keep x = true ∧ key' (f x) = key' (f y) := by
          simpa [shown] using hxk
        exact halike x hx hxkeep hxkey
      rw [List.eq_replicate_of_mem hall, List.eq_replicate_of_mem fun z hz =>
        hall z (hperm.mem_iff.1 hz), hperm.length_eq]
    · have hown : ∀ zs ⊆ ys, zs.filter shown = withKey key (key y) zs := by
        intro zs hzs
        refine List.filter_congr fun z hz => ?_
        rw [Bool.eq_iff_iff, beq_iff_eq, ← hsame z (hzs hz)]
        simp [shown]
      rw [hown xs h.perm.subset, hown ys (List.Subset.refl ys), h (key y)]
  · have hnone : ys.filter shown = [] := List.filter_eq_nil_iff.2 fun y hy hyk => hk ⟨y, hy, hyk⟩
    rw [hnone] at hperm ⊢
    exact hperm.eq_nil

end SameByKey

/-! ## The stable arrangement -/

theorem sorted_append : Sorted key (xs ++ ys) ↔
    Sorted key xs ∧ Sorted key ys ∧ ∀ x ∈ xs, ∀ y ∈ ys, key x ≤ key y :=
  List.pairwise_append

namespace Sorted

/-- The last element of a sorted list is the greatest. -/
theorem le_getLast (h : Sorted key xs) (hx : xs.getLast? = some x) : ∀ y ∈ xs, key y ≤ key x := by
  obtain ⟨ys, rfl⟩ := List.getLast?_eq_some_iff.1 hx
  obtain ⟨-, -, hle⟩ := sorted_append.1 h
  intro y hy
  rcases List.mem_append.1 hy with hy | hy
  · exact hle y hy x List.mem_cons_self
  · rw [List.mem_singleton.1 hy]

/-- Sorted lists with the same elements of each key begin with the same key. -/
theorem key_le (h : Sorted key (y :: ys)) (hsame : SameByKey key (x :: xs) (y :: ys)) :
    key y ≤ key x := by
  rcases List.mem_cons.1 (hsame.mem_iff.1 List.mem_cons_self) with rfl | hx
  · exact Int.le_refl _
  · exact (List.pairwise_cons.1 h).1 x hx

/-- Sorted lists with the same elements of each key are equal. -/
theorem ext (hxs : Sorted key xs) (hys : Sorted key ys) (hsame : SameByKey key xs ys) :
    xs = ys := by
  induction xs generalizing ys with
  | nil => exact (List.nil_perm.1 hsame.perm).symm
  | cons x xs ih =>
    cases ys with
    | nil => exact List.perm_nil.1 hsame.perm
    | cons y ys =>
      have hkey : key x = key y := Int.le_antisymm (hxs.key_le hsame.symm) (hys.key_le hsame)
      have hhead := hsame (key x)
      rw [withKey_cons, withKey_cons, if_pos rfl, if_pos hkey.symm] at hhead
      obtain ⟨rfl, -⟩ := List.cons.inj hhead
      have htails : SameByKey key xs ys := by
        intro k
        have hk := hsame k
        rw [withKey_cons, withKey_cons] at hk
        split at hk
        · exact (List.cons.inj hk).2
        · exact hk
      rw [ih (List.pairwise_cons.1 hxs).2 (List.pairwise_cons.1 hys).2 htails]

end Sorted

namespace Arranges

/-- A list has one stable arrangement. -/
theorem unique (hys : Arranges key xs ys) (hzs : Arranges key xs zs) : ys = zs :=
  hys.sorted.ext hzs.sorted (hys.same.trans hzs.same.symm)

/-- The arrangement of a list is that of every list with the same elements of each key. -/
theorem congr (h : Arranges key xs zs) (hsame : SameByKey key xs ys) : Arranges key ys zs :=
  ⟨h.sorted, h.same.trans hsame⟩

theorem perm (h : Arranges key xs ys) : ys.Perm xs := h.same.perm

/-- What an arrangement shows of its elements is an arrangement of what the list shows, as long as
that has the keys of the elements. -/
theorem map {β : Type} {f : α → β} {key' : β → Int} (h : Arranges key xs ys)
    (hkey : ∀ x ∈ xs, key' (f x) = key x) : Arranges key' (xs.map f) (ys.map f) where
  sorted := by
    refine List.pairwise_map.2 (h.sorted.imp_of_mem fun {x y} hx hy hle => ?_)
    rwa [hkey x (h.perm.mem_iff.1 hx), hkey y (h.perm.mem_iff.1 hy)]
  same := by
    have hshown : ∀ zs ⊆ xs, ∀ k, withKey key' k (zs.map f) = (withKey key k zs).map f := by
      intro zs hzs k
      rw [withKey, List.filter_map]
      refine congrArg _ (List.filter_congr fun z hz => ?_)
      rw [Function.comp_apply, hkey z (hzs hz)]
    intro k
    rw [hshown ys h.perm.subset, hshown xs (List.Subset.refl xs), h.same k]

/-- What is arranged between what stands in front of it and what stands behind it. -/
theorem between (front back : List α) (h : Arranges key xs zs) (hends : Sorted key (front ++ back))
    (hbetween : ∀ x ∈ xs, Sorted key (front ++ x :: back)) :
    Arranges key (front ++ (xs ++ back)) (front ++ (zs ++ back)) where
  sorted := by
    obtain ⟨hfront, hback, hle⟩ := sorted_append.1 hends
    have hz : ∀ z ∈ zs, (∀ x ∈ front, key x ≤ key z) ∧ ∀ y ∈ back, key z ≤ key y := by
      intro z hz
      obtain ⟨-, hcons, hle⟩ := sorted_append.1 (hbetween z (h.perm.mem_iff.1 hz))
      exact ⟨fun x hx => hle x hx z List.mem_cons_self, (List.pairwise_cons.1 hcons).1⟩
    refine sorted_append.2 ⟨hfront, sorted_append.2 ⟨h.sorted, hback, ?_⟩, ?_⟩ <;> grind
  same := (SameByKey.refl front).append (h.same.append (.refl back))

end Arranges

end Chronicle.Sorting
