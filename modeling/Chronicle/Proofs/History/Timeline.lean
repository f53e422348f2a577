import Chronicle.History.Timeline
import Chronicle.Proofs.Except
import Mathlib.Data.List.Induction
import Mathlib.Data.List.Sort

/-!
# Laws of timelines

A timeline whose entries all know their offset, or all do not, never fails on a moment that is like
them. Placing entries one after the other arranges them by their moments, those of one moment in the
order in which they came; cutting at a moment leaves the entries from that moment on.

## Main definitions

* `Alike` — a list of entries whose moments can be compared with each other.
* `Opposed` — a list of entries none of which can be compared with a moment.
* `Ordered` — a list of entries in the order of their moments.
* `place` — placing an entry where no comparison fails.
* `arranged` — a list of entries placed one after the other.
* `cutAt` — the entries from a moment on.

## Main statements

* `insert_eq_ok`, `insert_eq_error_iff`, `eq_place_of_insert` — when an entry can be placed, and
  where it goes.
* `arranged_perm`, `arranged_ordered`, `arranged_eq_self` — what arranging does.
* `since_eq_ok`, `notBefore_eq_ok` — cutting, and `since_eq_error`, `notBefore_eq_error` — where it
  fails.
-/

namespace Chronicle.Timeline

variable {α : Type} {stamp : α → Moment} {aware : Bool} {start : Moment} {x : α} {xs ys : List α}

/-- Whether each entry of a list knows its offset or not as `aware` says. -/
def Alike (stamp : α → Moment) (aware : Bool) (xs : List α) : Prop :=
  ∀ x ∈ xs, (stamp x).isAware = aware

/-- Whether the entries of a list are in the order of their moments. -/
def Ordered (stamp : α → Moment) (xs : List α) : Prop :=
  xs.Pairwise fun x y => (stamp x).instant ≤ (stamp y).instant

/-- The list with an entry placed after all that are not later. -/
def place (stamp : α → Moment) : α → List α → List α :=
  List.orderedInsert fun x y => (stamp x).instant < (stamp y).instant

/-- The entries of a list placed one after the other. -/
def arranged (stamp : α → Moment) (xs : List α) : List α :=
  xs.foldl (fun placed x => place stamp x placed) []

/-- Whether a list has entries, and none of them can be compared with a moment. -/
def Opposed (stamp : α → Moment) (xs : List α) (moment : Moment) : Prop :=
  xs ≠ [] ∧ ∀ x ∈ xs, (stamp x).isAware ≠ moment.isAware

theorem Opposed.not_alike (h : Opposed stamp xs start) : ¬ Alike stamp start.isAware xs := by
  obtain ⟨x, hx⟩ := List.exists_mem_of_ne_nil xs h.1
  exact fun halike => h.2 x hx (halike x hx)

/-- A moment can be compared with all entries of a list whose entries are alike, or with none. -/
theorem Alike.alike_or_opposed (h : Alike stamp aware xs) (moment : Moment) :
    Alike stamp moment.isAware xs ∨ Opposed stamp xs moment := by
  by_cases haware : moment.isAware = aware
  · exact .inl (haware ▸ h)
  · cases xs with
    | nil => exact .inl nofun
    | cons x rest =>
      exact .inr ⟨List.cons_ne_nil x rest, fun y hy heq => haware (heq.symm.trans (h y hy))⟩

/-! ## Placing -/

theorem place_perm : (place stamp x xs).Perm (x :: xs) := List.perm_orderedInsert _ x xs

theorem Alike.place (h : Alike stamp aware xs) (hx : (stamp x).isAware = aware) :
    Alike stamp aware (place stamp x xs) := fun y hy =>
  (List.mem_cons.1 (place_perm.mem_iff.1 hy)).elim (fun heq => heq ▸ hx) (h y)

theorem Ordered.place (h : Ordered stamp xs) : Ordered stamp (place stamp x xs) := by
  induction xs with
  | nil => exact List.pairwise_singleton ..
  | cons y rest ih =>
    obtain ⟨hy, hrest⟩ := List.pairwise_cons.1 h
    by_cases hlt : (stamp x).instant < (stamp y).instant
    · rw [Timeline.place, List.orderedInsert_cons, if_pos hlt]
      refine List.pairwise_cons.2 ⟨fun z hz => ?_, h⟩
      rcases List.mem_cons.1 hz with rfl | hz
      · omega
      · have := hy z hz
        omega
    · rw [Timeline.place, List.orderedInsert_cons, if_neg hlt]
      refine List.pairwise_cons.2 ⟨fun z hz => ?_, ih hrest⟩
      rcases List.mem_cons.1 (place_perm.mem_iff.1 hz) with rfl | hz
      · omega
      · exact hy z hz

/-- An entry that is not earlier than any other goes to the end. -/
theorem place_eq_append (h : ∀ y ∈ xs, (stamp y).instant ≤ (stamp x).instant) :
    place stamp x xs = xs ++ [x] := by
  induction xs with
  | nil => rfl
  | cons y rest ih =>
    have hy := h y List.mem_cons_self
    rw [place, List.orderedInsert_cons, if_neg (by omega)]
    exact congrArg (y :: ·) (ih fun z hz => h z (List.mem_cons_of_mem y hz))

/-- An entry goes behind the entries that are not later. -/
theorem place_eq_insertIdx {n : Nat} (hn : n ≤ xs.length)
    (hfront : ∀ y ∈ xs.take n, (stamp y).instant ≤ (stamp x).instant)
    (hback : ∀ y ∈ xs.drop n, (stamp x).instant < (stamp y).instant) :
    place stamp x xs = xs.insertIdx n x := by
  induction xs generalizing n with
  | nil =>
    obtain rfl : n = 0 := by simpa using hn
    rfl
  | cons y rest ih =>
    cases n with
    | zero =>
      have hy := hback y (by simp)
      rw [place, List.orderedInsert_cons, if_pos hy, List.insertIdx_zero]
    | succ n =>
      have hy := hfront y (by simp)
      have hrest := ih (Nat.le_of_succ_le_succ hn)
        (fun z hz => hfront z (List.mem_cons_of_mem y hz)) hback
      rw [place, List.orderedInsert_cons, if_neg (by omega), List.insertIdx_succ_cons, ← hrest]
      rfl

theorem insert_eq_ok (h : Alike stamp (stamp x).isAware xs) :
    insert stamp x xs = .ok (place stamp x xs) := by
  induction xs with
  | nil => rfl
  | cons y rest ih =>
    obtain ⟨hy, hrest⟩ := List.forall_mem_cons.1 h
    rw [insert, Moment.before_ok_of_isAware_eq hy.symm, ok_bind, ih hrest, place,
      List.orderedInsert_cons]
    by_cases hlt : (stamp x).instant < (stamp y).instant
    · simp [hlt]
    · simp [hlt]

theorem insert_eq_error (h : Opposed stamp xs (stamp x)) :
    insert stamp x xs = .error .mixedAwareness := by
  cases xs with
  | nil => exact absurd rfl h.1
  | cons y rest =>
    have hne : (stamp x).isAware ≠ (stamp y).isAware := (h.2 y List.mem_cons_self).symm
    rw [insert, Moment.before_error_iff.2 ⟨hne, rfl⟩, error_bind]

/-- Among entries that can be compared with each other, an entry cannot be placed if and only if it
cannot be compared with one of them. -/
theorem insert_eq_error_iff (h : Alike stamp aware xs) :
    (∃ e, insert stamp x xs = .error e) ↔ ∃ y ∈ xs, (stamp y).isAware ≠ (stamp x).isAware := by
  rcases h.alike_or_opposed (stamp x) with hx | hopposed
  · rw [insert_eq_ok hx]
    exact iff_of_false (fun ⟨_, he⟩ => nomatch he) fun ⟨y, hy, hne⟩ => hne (hx y hy)
  · obtain ⟨y, hy⟩ := List.exists_mem_of_ne_nil xs hopposed.1
    exact iff_of_true ⟨_, insert_eq_error hopposed⟩ ⟨y, hy, hopposed.2 y hy⟩

/-- Where an entry can be placed, all entries can still be compared with each other. -/
theorem Alike.of_insert (h : Alike stamp aware xs) (hinsert : insert stamp x xs = .ok ys) :
    ∃ aware, Alike stamp aware ys := by
  have halike : Alike stamp (stamp x).isAware xs := by
    intro y hy
    by_contra hne
    obtain ⟨e, he⟩ := (insert_eq_error_iff (x := x) h).2 ⟨y, hy, hne⟩
    rw [hinsert] at he
    cases he
  rw [insert_eq_ok halike] at hinsert
  cases hinsert
  exact ⟨_, halike.place rfl⟩

/-- An entry that could be placed is after all that are not later. -/
theorem eq_place_of_insert (h : insert stamp x xs = .ok ys) : ys = place stamp x xs := by
  induction xs generalizing ys with
  | nil =>
    cases h
    rfl
  | cons y rest ih =>
    obtain ⟨less, hless, h⟩ := bind_eq_ok_iff.1 h
    have halike : (stamp x).isAware = (stamp y).isAware := by
      by_contra hne
      rw [Moment.before_error_iff.2 ⟨hne, rfl⟩] at hless
      cases hless
    rw [Moment.before_ok_of_isAware_eq halike] at hless
    cases hless
    by_cases hlt : (stamp x).instant < (stamp y).instant
    · rw [decide_eq_true hlt] at h
      cases h
      rw [place, List.orderedInsert_cons, if_pos hlt]
    · rw [decide_eq_false hlt] at h
      obtain ⟨zs, hzs, h⟩ := bind_eq_ok_iff.1 h
      cases h
      rw [ih hzs, place, List.orderedInsert_cons, if_neg hlt]

/-- A list in which an entry could be placed has that entry more. -/
theorem perm_of_insert (h : insert stamp x xs = .ok ys) : ys.Perm (x :: xs) :=
  eq_place_of_insert h ▸ place_perm

/-! ## Arranging -/

theorem arranged_append_singleton :
    arranged stamp (xs ++ [x]) = place stamp x (arranged stamp xs) :=
  List.foldl_concat ..

theorem arranged_append : arranged stamp (xs ++ ys) =
    ys.foldl (fun placed y => place stamp y placed) (arranged stamp xs) :=
  List.foldl_append ..

/-- Arranging loses and duplicates nothing. -/
theorem arranged_perm : (arranged stamp xs).Perm xs := by
  induction xs using List.reverseRecOn with
  | nil => exact .refl _
  | append_singleton xs x ih =>
    rw [arranged_append_singleton]
    exact place_perm.trans ((ih.cons x).trans (List.perm_append_singleton x xs).symm)

theorem arranged_eq_nil_iff : arranged stamp xs = [] ↔ xs = [] := by
  rw [← List.length_eq_zero_iff, arranged_perm.length_eq, List.length_eq_zero_iff]

theorem arranged_ordered : Ordered stamp (arranged stamp xs) := by
  induction xs using List.reverseRecOn with
  | nil => exact .nil
  | append_singleton xs x ih =>
    rw [arranged_append_singleton]
    exact ih.place

theorem Alike.arranged (h : Alike stamp aware xs) : Alike stamp aware (arranged stamp xs) :=
  fun x hx => h x (arranged_perm.mem_iff.1 hx)

/-- Entries that come in the order of their moments keep their places. -/
theorem arranged_eq_self (h : Ordered stamp xs) : arranged stamp xs = xs := by
  induction xs using List.reverseRecOn with
  | nil => rfl
  | append_singleton xs x ih =>
    obtain ⟨hxs, -, hx⟩ := List.pairwise_append.1 h
    rw [arranged_append_singleton, ih hxs]
    exact place_eq_append fun y hy => hx y hy x List.mem_cons_self

/-! ## Cutting and sorting -/

/-- The entries of a list from a moment on. -/
def cutAt (stamp : α → Moment) (start : Moment) (xs : List α) : List α :=
  xs.filter fun x => decide (start.instant ≤ (stamp x).instant)

@[simp] theorem mem_cutAt :
    x ∈ cutAt stamp start xs ↔ x ∈ xs ∧ start.instant ≤ (stamp x).instant := by
  simp [cutAt]

theorem cutAt_eq_self (h : ∀ x ∈ xs, start.instant ≤ (stamp x).instant) :
    cutAt stamp start xs = xs :=
  List.filter_eq_self.2 fun x hx => decide_eq_true (h x hx)

theorem Alike.cutAt (h : Alike stamp aware xs) : Alike stamp aware (cutAt stamp start xs) :=
  fun x hx => h x (mem_cutAt.1 hx).1

theorem Alike.filter (h : Alike stamp aware xs) (p : α → Bool) : Alike stamp aware (xs.filter p) :=
  fun x hx => h x (List.mem_filter.1 hx).1

theorem Ordered.cutAt (h : Ordered stamp xs) : Ordered stamp (cutAt stamp start xs) :=
  List.Pairwise.filter _ h

theorem Ordered.filter (h : Ordered stamp xs) (p : α → Bool) : Ordered stamp (xs.filter p) :=
  List.Pairwise.filter p h

/-- The entries from a moment on are what is left of a list without those in front of it. -/
theorem cutAt_eq_drop {n : Nat} (hfront : ∀ x ∈ xs.take n, (stamp x).instant < start.instant)
    (hback : ∀ x ∈ xs.drop n, start.instant ≤ (stamp x).instant) :
    cutAt stamp start xs = xs.drop n := by
  have hnone : cutAt stamp start (xs.take n) = [] :=
    List.filter_eq_nil_iff.2 fun x hx => by simpa using hfront x hx
  calc cutAt stamp start xs
      = cutAt stamp start (xs.take n ++ xs.drop n) := by rw [List.take_append_drop]
    _ = cutAt stamp start (xs.take n) ++ cutAt stamp start (xs.drop n) := List.filter_append ..
    _ = xs.drop n := by rw [hnone, cutAt_eq_self hback, List.nil_append]

theorem since_eq_ok (h : Alike stamp start.isAware xs) (hxs : Ordered stamp xs) :
    since stamp start xs = .ok (cutAt stamp start xs) := by
  induction xs with
  | nil => rfl
  | cons y rest ih =>
    obtain ⟨hy, hrest⟩ := List.forall_mem_cons.1 h
    obtain ⟨hle, hordered⟩ := List.pairwise_cons.1 hxs
    rw [since, Moment.before_ok_of_isAware_eq hy, ok_bind]
    by_cases hlt : (stamp y).instant < start.instant
    · have hnot : ¬ start.instant ≤ (stamp y).instant := by omega
      simp [cutAt, hlt, hnot, ih hrest hordered]
    · have hall : ∀ z ∈ y :: rest, decide (start.instant ≤ (stamp z).instant) = true := by
        intro z hz
        rcases List.mem_cons.1 hz with rfl | hz
        · exact decide_eq_true (by omega)
        · have := hle z hz
          exact decide_eq_true (by omega)
      simp [cutAt, hlt, List.filter_eq_self.2 hall]

theorem since_eq_error (h : Opposed stamp xs start) :
    since stamp start xs = .error .mixedAwareness := by
  cases xs with
  | nil => exact absurd rfl h.1
  | cons y rest =>
    have hne : (stamp y).isAware ≠ start.isAware := h.2 y List.mem_cons_self
    rw [since, Moment.before_error_iff.2 ⟨hne, rfl⟩, error_bind]

theorem notBefore_eq_ok (h : Alike stamp start.isAware xs) :
    notBefore stamp start xs = .ok (cutAt stamp start xs) := by
  rw [notBefore, if_pos, cutAt]
  exact List.all_eq_true.2 fun x hx => beq_iff_eq.2 (h x hx)

theorem notBefore_eq_error (h : ¬ Alike stamp start.isAware xs) :
    notBefore stamp start xs = .error .mixedAwareness := by
  rw [notBefore, if_neg]
  exact fun hall => h fun x hx => beq_iff_eq.1 (List.all_eq_true.1 hall x hx)

theorem Alike.comparable (h : Alike stamp aware xs) : comparable stamp xs = true := by
  cases aware with
  | true => exact Bool.or_eq_true_iff.2 (.inl (List.all_eq_true.2 h))
  | false =>
    refine Bool.or_eq_true_iff.2 (.inr (List.all_eq_true.2 fun x hx => ?_))
    rw [h x hx, Bool.not_false]

end Chronicle.Timeline
