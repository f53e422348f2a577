import Chronicle.Value.Basic

/-!
# Attribute sets

An attribute set maps names to values and keeps the order in which the names were first written. A
name that is absent reads as null.

## Main definitions

* `Attributes` — attribute sets; `get?` is the view through which the operations are described.
* `Attributes.get`, `Attributes.set`, `Attributes.merge` — reading, writing one name, overwriting
  with another set.

## Main statements

* `Attributes.get?_set`, `Attributes.get?_merge` — what writing does to the view.
-/

namespace Chronicle

/-- Named values in the order of their first writing. -/
structure Attributes where
  entries : List (String × Value)
  deriving Inhabited

namespace Attributes

/-- The set without names. -/
def empty : Attributes := ⟨[]⟩

instance : EmptyCollection Attributes := ⟨empty⟩

/-- The value of a name, if the name is there. -/
def get? (a : Attributes) (name : String) : Option Value := a.entries.lookup name

/-- The value of a name; an absent name reads as null. -/
def get (a : Attributes) (name : String) : Value := (a.get? name).getD .null

def has (a : Attributes) (name : String) : Bool := (a.get? name).isSome

/-- The names, in the order of their first writing. -/
def names (a : Attributes) : List String := a.entries.map (·.1)

/-- Overwrites the value of a name in place; a new name goes to the end. -/
def setIn (name : String) (v : Value) : List (String × Value) → List (String × Value)
  | [] => [(name, v)]
  | (k, w) :: rest => if k = name then (name, v) :: rest else (k, w) :: setIn name v rest

def set (a : Attributes) (name : String) (v : Value) : Attributes := ⟨setIn name v a.entries⟩

/-- Overwrites a set with another: its names keep their places, new names follow. -/
def merge (a b : Attributes) : Attributes := b.entries.foldl (fun c e => c.set e.1 e.2) a

/-- A set from its entries; of two entries of one name the later counts. -/
def ofEntries (entries : List (String × Value)) : Attributes := merge empty ⟨entries⟩

def toValue (a : Attributes) : Value := .object a.entries

/-- The set that an object value holds. -/
def ofValue? : Value → Option Attributes
  | .object fields => some ⟨fields⟩
  | _ => none

/-! ## The view -/

@[simp] theorem get?_empty (name : String) : empty.get? name = none := rfl

theorem lookup_setIn (entries : List (String × Value)) (k l : String) (v : Value) :
    (setIn k v entries).lookup l = if l = k then some v else entries.lookup l := by
  have hb : l ≠ k → (l == k) = false := by simp
  induction entries with
  | nil => by_cases h : l = k <;> simp [setIn, List.lookup_cons, h, hb]
  | cons e rest ih =>
    obtain ⟨name, w⟩ := e
    by_cases hk : name = k
    · by_cases h : l = k <;> simp [setIn, List.lookup_cons, hk, h, hb]
    · by_cases hl : l = name
      · subst hl; simp [setIn, hk]
      · have he : (l == name) = false := by simpa using hl
        simp [setIn, List.lookup_cons, hk, he, ih]

theorem get?_set (a : Attributes) (k l : String) (v : Value) :
    (a.set k v).get? l = if l = k then some v else a.get? l :=
  lookup_setIn a.entries k l v

theorem get?_set_self (a : Attributes) (k : String) (v : Value) : (a.set k v).get? k = some v := by
  simp [get?_set]

theorem get?_set_of_ne (a : Attributes) {k l : String} (v : Value) (h : l ≠ k) :
    (a.set k v).get? l = a.get? l := by
  simp [get?_set, h]

/-- An overwritten set reads as the last entry of a name, else as before. -/
theorem get?_merge (a b : Attributes) (name : String) :
    (a.merge b).get? name = (b.entries.reverse.lookup name).or (a.get? name) := by
  obtain ⟨entries⟩ := b
  induction entries generalizing a with
  | nil => simp [merge]
  | cons e rest ih =>
    obtain ⟨key, v⟩ := e
    have hstep : (a.merge ⟨(key, v) :: rest⟩) = (a.set key v).merge ⟨rest⟩ := rfl
    rw [hstep, ih, List.reverse_cons, List.lookup_append, get?_set]
    by_cases h : name = key
    · subst h; simp
    · have hb : (name == key) = false := by simpa using h
      simp [List.lookup_cons, h, hb]

end Attributes

end Chronicle
