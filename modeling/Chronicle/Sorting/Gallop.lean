/-!
# Galloping search

A search for the boundary between the elements of a list that stand in front of something and those
that do not. It starts at a hint, doubles its steps until it has passed the boundary, and halves the
interval that is left. For a list that has such a boundary the result is the boundary, wherever the
search starts; the course of the questions shows only for others.

## Main definitions

* `Sorting.bisect` — the search by halving.
* `Sorting.gallop` — the search from a hint.
* `Sorting.gallopLeft`, `Sorting.gallopRight` — the first and the last place of a key in a sorted
  list.
-/

namespace Chronicle.Sorting

variable {α ε : Type}

section Search

variable (inFront : α → Except ε Bool) (xs : List α)

/-- The boundary between two places, found by halving. -/
def bisect (low high : Nat) : Except ε Nat :=
  if _h : low < high then
    match xs[low + (high - low) / 2]? with
    | none => .ok low
    | some x => do
      if ← inFront x then bisect (low + (high - low) / 2 + 1) high
      else bisect low (low + (high - low) / 2)
  else .ok low
termination_by high - low
decreasing_by all_goals omega

/-- Steps up from a hint as long as the elements are in front; the last two distances. -/
def stride (hint limit last step : Nat) : Except ε (Nat × Nat) :=
  if _h : step < limit then
    match xs[hint + step]? with
    | none => .ok (last, limit)
    | some x => do
      if ← inFront x then stride hint limit step (2 * step + 1) else return (last, step)
  else .ok (last, limit)
termination_by limit - step
decreasing_by omega

/-- Steps down from a hint as long as the elements are not in front; the last two distances. -/
def strideBack (hint limit last step : Nat) : Except ε (Nat × Nat) :=
  if _h : step < limit then
    match xs[hint - step]? with
    | none => .ok (last, limit)
    | some x => do
      if ← inFront x then return (last, step) else strideBack hint limit step (2 * step + 1)
  else .ok (last, limit)
termination_by limit - step
decreasing_by omega

/-- The number of elements in front, searched from a hint. -/
def gallop (hint : Nat) : Except ε Nat :=
  match xs[hint]? with
  | none => .ok 0
  | some x => do
    if ← inFront x then
      let (last, step) ← stride inFront xs hint (xs.length - hint) 0 1
      bisect inFront xs (hint + last + 1) (hint + step)
    else
      let (last, step) ← strideBack inFront xs hint (hint + 1) 0 1
      bisect inFront xs (hint + 1 - step) (hint - last)

end Search

variable (less : α → α → Except ε Bool)

/-- The number of elements that precede a key. -/
def gallopLeft (key : α) (xs : List α) (hint : Nat) : Except ε Nat :=
  gallop (fun x => less x key) xs hint

/-- The number of elements that a key does not precede. -/
def gallopRight (key : α) (xs : List α) (hint : Nat) : Except ε Nat :=
  gallop (fun x => do return !(← less key x)) xs hint

end Chronicle.Sorting
