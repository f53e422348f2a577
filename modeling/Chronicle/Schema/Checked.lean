import Chronicle.Attributes
import Chronicle.Schema.Violation

/-!
# Records read field by field

Reading a record from named values collects the violations of all its fields instead of stopping at
the first.

## Main definitions

* `Checked` — a result or all the violations found; an applicative functor, and no monad.
* `Attributes.required`, `Attributes.optional` — one field of a record.
-/

namespace Chronicle

/-- A result, or every violation found while reading it. -/
def Checked (α : Type) : Type := Except (List Violation) α

namespace Checked

/-- The result without violations. -/
protected def pure {α : Type} (a : α) : Checked α := Except.ok a

/-- Applies a read function to a read argument; violations of both are kept. -/
protected def seq {α β : Type} (f : Checked (α → β)) (x : Unit → Checked α) : Checked β :=
  match f, x () with
  | .ok g, .ok a => Except.ok (g a)
  | .ok _, .error vs => Except.error vs
  | .error vs, .ok _ => Except.error vs
  | .error vs, .error ws => Except.error (vs ++ ws)

instance : Applicative Checked where
  pure := Checked.pure
  seq := Checked.seq

end Checked

namespace Attributes

/-- A field's reading, with its violation placed under the field's name. -/
def field {α : Type} (name : String) (result : Except Refusal α) : Checked α :=
  result.mapError fun reason => [⟨[name], reason⟩]

/-- A field that must be there. -/
def required {α : Type} (a : Attributes) (name : String) (read : Value → Except Refusal α) :
    Checked α :=
  field name (match a.get? name with
    | some v => read v
    | none => .error .missing)

/-- A field that has a value when it is absent. -/
def optional {α : Type} (a : Attributes) (name : String) (otherwise : α)
    (read : Value → Except Refusal α) : Checked α :=
  field name (match a.get? name with
    | some v => read v
    | none => .ok otherwise)

end Attributes

end Chronicle
