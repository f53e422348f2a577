/-!
# Sorting by insertion

A sort whose comparison may fail: each element in turn is placed before the first that it precedes.
For a comparison that never fails and is a weak order this is the stable order.

## Main definitions

* `Sorting.insert` — placing one element in a sorted list.
* `Sorting.insertEach` — placing elements one after the other.
* `Sorting.insertionSort` — the sort.
-/

namespace Chronicle.Sorting

variable {α ε : Type} (less : α → α → Except ε Bool)

/-- Places an element before the first that it precedes. -/
def insert (x : α) : List α → Except ε (List α)
  | [] => .ok [x]
  | y :: rest => do if ← less x y then return x :: y :: rest else return y :: (← insert x rest)

/-- Places elements one after the other in a list, whichever way one is placed. -/
def insertEach (place : α → List α → Except ε (List α)) (placed : List α) :
    List α → Except ε (List α)
  | [] => .ok placed
  | x :: rest => do insertEach place (← place x placed) rest

def insertionSort (xs : List α) : Except ε (List α) := insertEach (insert less) [] xs

end Chronicle.Sorting
