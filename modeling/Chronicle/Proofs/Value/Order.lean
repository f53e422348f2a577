import Chronicle.Value.Order
import Mathlib.Algebra.Order.Ring.Rat
import Mathlib.Data.List.Basic

/-!
# Laws of equality and order of values

Agreement of values is an equivalence, whatever the values hold: what is no number agrees with the
same occurrence of itself. The order of values is transitive, is not changed by what agrees, and
never holds both ways. It is not total: two values of different families have no order, and neither
have two occurrences of what is no number.

## Main definitions

* `Value.Agreement` — how two values can agree.
* `Value.Ascent` — how one value can be less than another.

## Main statements

* `Value.agrees_refl`, `Value.agrees_comm`, `Value.agrees_trans` — agreement is an equivalence.
* `Value.less?_of_agrees_of_less?`, `Value.less?_of_less?_of_agrees` — the order respects it.
* `Value.less?_trans`, `Value.less?_asymm` — the order is strict.
-/

namespace Chronicle

namespace Number

variable {p q r : Number}

theorem same_iff : p.same q = true ↔ p = q ∧ p ≠ .undefined := by
  cases p <;> simp [same]

theorem less_trans (hpq : p.less q = true) (hqr : q.less r = true) : p.less r = true := by
  cases p <;> cases q <;> cases r <;> simp_all [less]
  exact lt_trans hpq hqr

theorem less_asymm (h : p.less q = true) : q.less p = false := by
  cases p <;> cases q <;> simp_all [less]
  exact le_of_lt h

end Number

theorem Double.number_ne_undefined {x : Double} (h : ∀ m, x ≠ .nan m) : x.number ≠ .undefined := by
  unfold number
  split
  · exact absurd rfl (h _)
  · nofun
  · nofun
  · split <;> nofun

namespace Value

variable {u v w : Value} {p q : Number} {xs ys zs : List Value}
  {fs gs hs : List (String × Value)}

/-- Whether a value has no parts. -/
def IsScalar : Value → Prop
  | list _ | object _ => False
  | _ => True

/-- Induction over the parts of values. -/
theorem induction_on {P : Value → Prop} (v : Value) (scalar : ∀ v, v.IsScalar → P v)
    (list : ∀ items, (∀ x ∈ items, P x) → P (.list items))
    (object : ∀ fields : List (String × Value), (∀ f ∈ fields, P f.2) → P (.object fields)) :
    P v :=
  match v with
  | null => scalar _ trivial
  | bool _ => scalar _ trivial
  | int _ => scalar _ trivial
  | float _ => scalar _ trivial
  | text _ => scalar _ trivial
  | .list items => list items fun x _ => induction_on x scalar list object
  | .object fields => object fields fun f _ => induction_on f.2 scalar list object
termination_by sizeOf v
decreasing_by
  · have := List.sizeOf_lt_of_mem ‹x ∈ items›
    rw [Value.list.sizeOf_spec]
    omega
  · have := List.sizeOf_lt_of_mem ‹f ∈ fields›
    have : sizeOf f.2 < sizeOf f := by
      rw [Prod.mk.sizeOf_spec]
      omega
    rw [Value.object.sizeOf_spec]
    omega

/-! ## Agreement -/

theorem agrees_list : (list xs).agrees (list ys) = sameItems xs ys := by
  simp [agrees, sameMark, same]

theorem agrees_object : (object fs).agrees (object gs) = sameFields fs gs := by
  simp [agrees, sameMark, same]

theorem sameItems_cons : sameItems (u :: xs) (v :: ys) = (u.agrees v && sameItems xs ys) := by
  rw [sameItems, agrees]

/-- Objects agree if their names are equal and their values agree one by one. -/
theorem sameFields_eq : sameFields fs gs =
    (fs.map (·.1) == gs.map (·.1) && sameItems (fs.map (·.2)) (gs.map (·.2))) := by
  induction fs generalizing gs with
  | nil => cases gs <;> rfl
  | cons f fs ih =>
    cases gs with
    | nil => rfl
    | cons g gs =>
      simp only [sameFields, ih, List.map_cons, sameItems_cons, agrees, List.cons_beq_cons]
      grind

/-! Agreement of lists has the properties that it has for their items. -/

theorem sameItems_refl (h : ∀ x ∈ xs, x.agrees x = true) : sameItems xs xs = true := by
  induction xs with
  | nil => rfl
  | cons x xs ih => simp_all [sameItems_cons]

theorem sameItems_symm (h : ∀ x ∈ xs, ∀ y, x.agrees y = true → y.agrees x = true)
    (hxy : sameItems xs ys = true) : sameItems ys xs = true := by
  induction xs generalizing ys with
  | nil => cases ys <;> simp_all [sameItems]
  | cons x xs ih =>
    cases ys with
    | nil => simp [sameItems] at hxy
    | cons y ys =>
      rw [sameItems_cons, Bool.and_eq_true_iff] at hxy ⊢
      obtain ⟨hx, hxs⟩ := List.forall_mem_cons.1 h
      exact ⟨hx y hxy.1, ih hxs hxy.2⟩

theorem sameItems_trans
    (h : ∀ x ∈ xs, ∀ y z, x.agrees y = true → y.agrees z = true → x.agrees z = true)
    (hxy : sameItems xs ys = true) (hyz : sameItems ys zs = true) : sameItems xs zs = true := by
  induction xs generalizing ys zs with
  | nil => cases ys <;> simp_all [sameItems]
  | cons x xs ih =>
    cases ys with
    | nil => simp [sameItems] at hxy
    | cons y ys =>
      cases zs with
      | nil => simp [sameItems] at hyz
      | cons z zs =>
        rw [sameItems_cons, Bool.and_eq_true_iff] at hxy hyz ⊢
        obtain ⟨hx, hxs⟩ := List.forall_mem_cons.1 h
        exact ⟨hx y z hxy.1 hyz.1, ih hxs hxy.2 hyz.2⟩

theorem agrees_of_number? (hu : u.number? = some p) (hv : v.number? = some q) :
    u.agrees v = (u.sameMark v || p.same q) := by
  cases u <;> cases v <;> simp_all [number?, agrees, same, sameNumber]

theorem eq_of_sameMark (h : u.sameMark v = true) : u = v := by
  unfold sameMark at h
  split at h
  · rw [beq_iff_eq.1 h]
  · cases h

theorem agrees_refl (v : Value) : v.agrees v = true := by
  induction v using induction_on with
  | scalar v hv =>
    cases v with
    | float x =>
      by_cases hx : ∃ m, x = .nan m
      · obtain ⟨m, rfl⟩ := hx
        simp [agrees, sameMark]
      · rw [agrees_of_number? (p := x.number) rfl rfl, Number.same_iff.2 ⟨rfl, ?_⟩, Bool.or_true]
        exact Double.number_ne_undefined fun m h => hx ⟨m, h⟩
    | _ => simp_all [agrees, same, sameNumber, number?, Number.same_ofInt, IsScalar]
  | list items ih =>
    rw [agrees_list]
    exact sameItems_refl ih
  | object fields ih =>
    rw [agrees_object, sameFields_eq, beq_self_eq_true, Bool.true_and]
    exact sameItems_refl (List.forall_mem_map.2 ih)

/-- How two values can agree. -/
inductive Agreement : Value → Value → Prop
  | refl (v : Value) : Agreement v v
  | number {u v : Value} {p : Number} (hu : u.number? = some p) (hv : v.number? = some p)
      (hp : p ≠ .undefined) : Agreement u v
  | list {xs ys : List Value} (h : sameItems xs ys = true) : Agreement (list xs) (list ys)
  | object {fs gs : List (String × Value)} (h : sameFields fs gs = true) :
      Agreement (object fs) (object gs)

theorem agrees_iff : u.agrees v = true ↔ Agreement u v := by
  constructor
  · intro h
    cases hu : u.number? with
    | some p =>
      cases hv : v.number? with
      | some q =>
        rw [agrees_of_number? hu hv, Bool.or_eq_true_iff, Number.same_iff] at h
        rcases h with h | ⟨rfl, hp⟩
        · exact eq_of_sameMark h ▸ .refl u
        · exact .number hu hv hp
      | none => cases u <;> cases v <;> simp_all [number?, agrees, same, sameMark, sameNumber]
    | none =>
      cases u <;> cases v <;>
        simp_all [number?, agrees, same, sameMark, sameNumber, Agreement.refl, Agreement.list,
          Agreement.object]
  · intro h
    cases h with
    | refl => exact agrees_refl u
    | number hu hv hp => simp [agrees_of_number? hu hv, Number.same_iff, hp]
    | list h => rwa [agrees_list]
    | object h => rwa [agrees_object]

theorem agrees_symm (h : u.agrees v = true) : v.agrees u = true := by
  induction u using induction_on generalizing v with
  | scalar u hu =>
    cases agrees_iff.1 h with
    | refl => exact h
    | number hu hv hp => exact agrees_iff.2 (.number hv hu hp)
    | list => cases hu
    | object => cases hu
  | list items ih =>
    cases agrees_iff.1 h with
    | refl => exact h
    | number hu => cases hu
    | list hsame =>
      rw [agrees_list]
      exact sameItems_symm (fun x hx y => ih x hx) hsame
  | object fields ih =>
    cases agrees_iff.1 h with
    | refl => exact h
    | number hu => cases hu
    | object hsame =>
      rw [agrees_object]
      rw [sameFields_eq, Bool.and_eq_true_iff, beq_iff_eq] at hsame ⊢
      exact ⟨hsame.1.symm, sameItems_symm (List.forall_mem_map.2 fun f hf y => ih f hf) hsame.2⟩

/-- Agreement of values is symmetric. -/
theorem agrees_comm (u v : Value) : u.agrees v = v.agrees u :=
  Bool.eq_iff_iff.2 ⟨agrees_symm, agrees_symm⟩

/-- Agreement of values is transitive. -/
theorem agrees_trans (huv : u.agrees v = true) (hvw : v.agrees w = true) : u.agrees w = true := by
  induction u using induction_on generalizing v w with
  | scalar u hu =>
    cases agrees_iff.1 huv with
    | refl => exact hvw
    | number hu hv hp =>
      cases agrees_iff.1 hvw with
      | refl => exact huv
      | number hv' hw hq =>
        cases hv.symm.trans hv'
        exact agrees_iff.2 (.number hu hw hp)
      | list => cases hv
      | object => cases hv
    | list => cases hu
    | object => cases hu
  | list items ih =>
    cases agrees_iff.1 huv with
    | refl => exact hvw
    | number hu => cases hu
    | list hxy =>
      cases agrees_iff.1 hvw with
      | refl => exact huv
      | number hv => cases hv
      | list hyz =>
        rw [agrees_list]
        exact sameItems_trans (fun x hx y z => ih x hx) hxy hyz
  | object fields ih =>
    cases agrees_iff.1 huv with
    | refl => exact hvw
    | number hu => cases hu
    | object hxy =>
      cases agrees_iff.1 hvw with
      | refl => exact huv
      | number hv => cases hv
      | object hyz =>
        rw [agrees_object]
        rw [sameFields_eq, Bool.and_eq_true_iff, beq_iff_eq] at hxy hyz ⊢
        exact ⟨hxy.1.trans hyz.1,
          sameItems_trans (List.forall_mem_map.2 fun f hf y z => ih f hf) hxy.2 hyz.2⟩

/-! ## Order -/

theorem less?_of_number? (hu : u.number? = some p) (hv : v.number? = some q) :
    u.less? v = some (p.less q) := by
  cases u <;> cases v <;> simp_all [number?, less?]

theorem less?_list : (list xs).less? (list ys) = lessItems? xs ys := by rw [less?]

theorem lessItems?_cons : lessItems? (u :: xs) (v :: ys) =
    if u.agrees v then lessItems? xs ys else u.less? v := by
  rw [lessItems?]

/-- How one value can be less than another. -/
inductive Ascent : Value → Value → Prop
  | number {u v : Value} {p q : Number} (hu : u.number? = some p) (hv : v.number? = some q)
      (h : p.less q = true) : Ascent u v
  | text {s t : String} (h : s < t) : Ascent (text s) (text t)
  | list {xs ys : List Value} (h : lessItems? xs ys = some true) : Ascent (list xs) (list ys)

theorem less?_iff : u.less? v = some true ↔ Ascent u v := by
  constructor
  · intro h
    cases hu : u.number? with
    | some p =>
      cases hv : v.number? with
      | some q =>
        rw [less?_of_number? hu hv, Option.some_inj] at h
        exact .number hu hv h
      | none => cases u <;> cases v <;> simp_all [number?, less?]
    | none =>
      cases u <;> cases v <;> simp_all [number?, less?, Ascent.text, Ascent.list]
  · intro h
    cases h with
    | number hu hv h => rw [less?_of_number? hu hv, h]
    | text h => simp [less?, h]
    | list h => rwa [less?_list]

theorem sameItems_of_lessItems? (h : lessItems? xs ys = some true) : sameItems xs ys = false := by
  induction xs generalizing ys with
  | nil => cases ys <;> simp_all [lessItems?, sameItems]
  | cons x xs ih =>
    cases ys with
    | nil => simp [lessItems?] at h
    | cons y ys =>
      rw [lessItems?_cons] at h
      rw [sameItems_cons]
      split at h
      · rw [ih h, Bool.and_false]
      · simp_all

/-- A value that is less than another does not agree with it. -/
theorem agrees_of_less? (h : u.less? v = some true) : u.agrees v = false := by
  cases less?_iff.1 h with
  | @number _ _ p q hu hv hlt =>
    rw [agrees_of_number? hu hv, Bool.or_eq_false_iff]
    constructor
    · by_contra hmark
      cases eq_of_sameMark (Bool.not_eq_false _ ▸ hmark)
      cases hu.symm.trans hv
      have := Number.less_asymm hlt
      simp_all
    · by_contra hsame
      obtain ⟨rfl, -⟩ := Number.same_iff.1 (Bool.not_eq_false _ ▸ hsame)
      have := Number.less_asymm hlt
      simp_all
  | text hlt =>
    simp only [agrees, sameMark, same, Bool.false_or, beq_eq_false_iff_ne]
    rintro rfl
    exact String.lt_irrefl _ hlt
  | list hlt => rw [agrees_list, sameItems_of_lessItems? hlt]

/-! The order of lists has the properties that it has for their items. -/

theorem lessItems?_of_same_of_less
    (h : ∀ x ∈ xs, ∀ y z, x.agrees y = true → y.less? z = some true → x.less? z = some true)
    (hxy : sameItems xs ys = true) (hyz : lessItems? ys zs = some true) :
    lessItems? xs zs = some true := by
  induction xs generalizing ys zs with
  | nil => cases ys <;> simp_all [sameItems]
  | cons x xs ih =>
    cases ys with
    | nil => simp [sameItems] at hxy
    | cons y ys =>
      cases zs with
      | nil => simp [lessItems?] at hyz
      | cons z zs =>
        obtain ⟨hx, hxs⟩ := List.forall_mem_cons.1 h
        rw [sameItems_cons, Bool.and_eq_true_iff] at hxy
        rw [lessItems?_cons] at hyz ⊢
        have hagrees : x.agrees z = y.agrees z := by
          rw [Bool.eq_iff_iff]
          exact ⟨agrees_trans (agrees_symm hxy.1), agrees_trans hxy.1⟩
        rw [hagrees]
        split at hyz
        · exact (if_pos ‹_›).trans (ih hxs hxy.2 hyz)
        · exact (if_neg ‹_›).trans (hx y z hxy.1 hyz)

theorem lessItems?_of_less_of_same
    (h : ∀ x ∈ xs, ∀ y z, x.less? y = some true → y.agrees z = true → x.less? z = some true)
    (hxy : lessItems? xs ys = some true) (hyz : sameItems ys zs = true) :
    lessItems? xs zs = some true := by
  induction xs generalizing ys zs with
  | nil => cases ys <;> cases zs <;> simp_all [sameItems, lessItems?]
  | cons x xs ih =>
    cases ys with
    | nil => simp [lessItems?] at hxy
    | cons y ys =>
      cases zs with
      | nil => simp [sameItems] at hyz
      | cons z zs =>
        obtain ⟨hx, hxs⟩ := List.forall_mem_cons.1 h
        rw [sameItems_cons, Bool.and_eq_true_iff] at hyz
        rw [lessItems?_cons] at hxy ⊢
        have hagrees : x.agrees z = x.agrees y := by
          rw [Bool.eq_iff_iff]
          exact ⟨fun hxz => agrees_trans hxz (agrees_symm hyz.1), fun hxy => agrees_trans hxy hyz.1⟩
        rw [hagrees]
        split at hxy
        · exact (if_pos ‹_›).trans (ih hxs hxy hyz.2)
        · exact (if_neg ‹_›).trans (hx y z hxy hyz.1)

/-- What agrees with a value is less than the same values. -/
theorem less?_of_agrees_of_less? (huv : u.agrees v = true) (hvw : v.less? w = some true) :
    u.less? w = some true := by
  induction u using induction_on generalizing v w with
  | scalar u hu =>
    cases agrees_iff.1 huv with
    | refl => exact hvw
    | number hu hv hp =>
      cases less?_iff.1 hvw with
      | number hv' hw hlt =>
        cases hv.symm.trans hv'
        exact less?_iff.2 (.number hu hw hlt)
      | text => cases hv
      | list => cases hv
    | list => cases hu
    | object => cases hu
  | list items ih =>
    cases agrees_iff.1 huv with
    | refl => exact hvw
    | number hu => cases hu
    | list hxy =>
      cases less?_iff.1 hvw with
      | number hv => cases hv
      | list hyz =>
        rw [less?_list]
        exact lessItems?_of_same_of_less (fun x hx y z => ih x hx) hxy hyz
  | object fields ih =>
    cases agrees_iff.1 huv with
    | refl => exact hvw
    | number hu => cases hu
    | object =>
      cases less?_iff.1 hvw with
      | number hv => cases hv

/-- A value is less than what agrees with a value that it is less than. -/
theorem less?_of_less?_of_agrees (huv : u.less? v = some true) (hvw : v.agrees w = true) :
    u.less? w = some true := by
  induction u using induction_on generalizing v w with
  | scalar u hu =>
    cases less?_iff.1 huv with
    | number hu hv hlt =>
      cases agrees_iff.1 hvw with
      | refl => exact huv
      | number hv' hw hp =>
        cases hv.symm.trans hv'
        exact less?_iff.2 (.number hu hw hlt)
      | list => cases hv
      | object => cases hv
    | text h =>
      cases agrees_iff.1 hvw with
      | refl => exact huv
      | number hv => cases hv
    | list => cases hu
  | list items ih =>
    cases less?_iff.1 huv with
    | number hu => cases hu
    | list hxy =>
      cases agrees_iff.1 hvw with
      | refl => exact huv
      | number hv => cases hv
      | list hyz =>
        rw [less?_list]
        exact lessItems?_of_less_of_same (fun x hx y z => ih x hx) hxy hyz
  | object fields ih =>
    cases less?_iff.1 huv with
    | number hu => cases hu

theorem lessItems?_trans
    (h : ∀ x ∈ xs, ∀ y z, x.less? y = some true → y.less? z = some true → x.less? z = some true)
    (hxy : lessItems? xs ys = some true) (hyz : lessItems? ys zs = some true) :
    lessItems? xs zs = some true := by
  induction xs generalizing ys zs with
  | nil => cases ys <;> cases zs <;> simp_all [lessItems?]
  | cons x xs ih =>
    cases ys with
    | nil => simp [lessItems?] at hxy
    | cons y ys =>
      cases zs with
      | nil => simp [lessItems?] at hyz
      | cons z zs =>
        obtain ⟨hx, hxs⟩ := List.forall_mem_cons.1 h
        rw [lessItems?_cons] at hxy hyz ⊢
        split at hxy <;> rename_i hagrees <;> split at hyz <;> rename_i hagrees'
        · rw [if_pos (agrees_trans hagrees hagrees')]
          exact ih hxs hxy hyz
        · have hless : x.less? z = some true := less?_of_agrees_of_less? hagrees hyz
          rw [agrees_of_less? hless]
          exact hless
        · have hless : x.less? z = some true := less?_of_less?_of_agrees hxy hagrees'
          rw [agrees_of_less? hless]
          exact hless
        · have hless : x.less? z = some true := hx y z hxy hyz
          rw [agrees_of_less? hless]
          exact hless

/-- The order of values is transitive. -/
theorem less?_trans (huv : u.less? v = some true) (hvw : v.less? w = some true) :
    u.less? w = some true := by
  induction u using induction_on generalizing v w with
  | scalar u hu =>
    cases less?_iff.1 huv with
    | number hu hv hlt =>
      cases less?_iff.1 hvw with
      | number hv' hw hlt' =>
        cases hv.symm.trans hv'
        exact less?_iff.2 (.number hu hw (Number.less_trans hlt hlt'))
      | text => cases hv
      | list => cases hv
    | text h =>
      cases less?_iff.1 hvw with
      | number hv => cases hv
      | text h' => exact less?_iff.2 (.text (String.lt_trans h h'))
    | list => cases hu
  | list items ih =>
    cases less?_iff.1 huv with
    | number hu => cases hu
    | list hxy =>
      cases less?_iff.1 hvw with
      | number hv => cases hv
      | list hyz =>
        rw [less?_list]
        exact lessItems?_trans (fun x hx y z => ih x hx) hxy hyz
  | object fields ih =>
    cases less?_iff.1 huv with
    | number hu => cases hu

theorem lessItems?_asymm
    (h : ∀ x ∈ xs, ∀ y, x.less? y = some true → y.less? x = some false)
    (hxy : lessItems? xs ys = some true) : lessItems? ys xs = some false := by
  induction xs generalizing ys with
  | nil => cases ys <;> simp_all [lessItems?]
  | cons x xs ih =>
    cases ys with
    | nil => simp [lessItems?] at hxy
    | cons y ys =>
      obtain ⟨hx, hxs⟩ := List.forall_mem_cons.1 h
      rw [lessItems?_cons] at hxy ⊢
      rw [agrees_comm]
      split at hxy
      · exact (if_pos ‹_›).trans (ih hxs hxy)
      · exact (if_neg ‹_›).trans (hx y hxy)

/-- A value that is less than another is not greater. -/
theorem less?_asymm (h : u.less? v = some true) : v.less? u = some false := by
  induction u using induction_on generalizing v with
  | scalar u hu =>
    cases less?_iff.1 h with
    | number hu hv hlt => rw [less?_of_number? hv hu, Number.less_asymm hlt]
    | text hlt => simp [less?, String.lt_asymm hlt]
    | list => cases hu
  | list items ih =>
    cases less?_iff.1 h with
    | number hu => cases hu
    | list hxy =>
      rw [less?_list]
      exact lessItems?_asymm (fun x hx y => ih x hx) hxy
  | object fields ih =>
    cases less?_iff.1 h with
    | number hu => cases hu

end Value

end Chronicle
