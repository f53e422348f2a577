import Chronicle.Kind

/-!
# One value for each kind

## Main definitions

* `ByKind` — a value for demons and one for records, with `get`, `set` and `modify`.
-/

namespace Chronicle

variable {α β : Type}

/-- A value for each kind. -/
@[ext] structure ByKind (α : Type) where
  demon : α
  record : α
  deriving DecidableEq

namespace ByKind

/-- The same value for every kind. -/
def replicate (a : α) : ByKind α := ⟨a, a⟩

def get (b : ByKind α) : Kind → α
  | .demon => b.demon
  | .record => b.record

/-- Replaces the value of a kind. -/
def set (b : ByKind α) (kind : Kind) (a : α) : ByKind α :=
  match kind with
  | .demon => { b with demon := a }
  | .record => { b with record := a }

/-- Changes the value of a kind. -/
def modify (b : ByKind α) (kind : Kind) (f : α → α) : ByKind α := b.set kind (f (b.get kind))

/-- Combines the values kind by kind. -/
def zipWith (f : α → α → β) (b c : ByKind α) : ByKind β := ⟨f b.demon c.demon, f b.record c.record⟩

@[simp] theorem get_replicate (a : α) (kind : Kind) : (replicate a).get kind = a := by
  cases kind <;> rfl

@[simp] theorem get_set_self (b : ByKind α) (kind : Kind) (a : α) :
    (b.set kind a).get kind = a := by
  cases kind <;> rfl

theorem get_set_of_ne (b : ByKind α) {kind other : Kind} (a : α) (h : other ≠ kind) :
    (b.set kind a).get other = b.get other := by
  cases kind <;> cases other <;> first | rfl | exact absurd rfl h

@[simp] theorem get_modify_self (b : ByKind α) (kind : Kind) (f : α → α) :
    (b.modify kind f).get kind = f (b.get kind) := get_set_self b kind _

theorem get_modify_of_ne (b : ByKind α) {kind other : Kind} (f : α → α) (h : other ≠ kind) :
    (b.modify kind f).get other = b.get other := get_set_of_ne b _ h

@[simp] theorem set_get (b : ByKind α) (kind : Kind) : b.set kind (b.get kind) = b := by
  cases kind <;> rfl

@[simp] theorem get_zipWith (f : α → α → β) (b c : ByKind α) (kind : Kind) :
    (zipWith f b c).get kind = f (b.get kind) (c.get kind) := by
  cases kind <;> rfl

theorem ext_get {b c : ByKind α} (h : ∀ kind, b.get kind = c.get kind) : b = c :=
  ByKind.ext (h .demon) (h .record)

end ByKind

end Chronicle
