import Chronicle.Sorting.Insertion
import Chronicle.Sorting.Merge

/-!
# Sorting by runs

The list is cut into runs that are in order as they stand, where a strictly falling one is reversed
and a short one is filled up by insertion. Runs are merged with their neighbours so that the tree of
merges is nearly balanced: the boundary between two runs has a power, the depth at which it would
fall in a balanced tree, and deeper boundaries go first.

For a comparison that never fails and is a weak order this is the stable order. For any other
comparison the result is an order of the same elements that depends on which comparisons are made.

## Main definitions

* `Sorting.leadingRun` — the leading run of a list and what follows it.
* `Sorting.Run`, `Sorting.power` — runs and the powers of their boundaries.
* `Sorting.runSort` — the sort.
-/

namespace Chronicle.Sorting

variable {α ε : Type} (less : α → α → Except ε Bool)

/-! ## Runs -/

/-- Places an element after all that it does not precede, by halving the list. -/
def insertHalving (x : α) (xs : List α) : Except ε (List α) :=
  match _h : xs.drop (xs.length / 2) with
  | [] => .ok [x]
  | y :: back => do
    if ← less x y then return (← insertHalving x (xs.take (xs.length / 2))) ++ y :: back
    else return xs.take (xs.length / 2) ++ y :: (← insertHalving x back)
termination_by xs.length
decreasing_by
  all_goals
    have hlen := congrArg List.length _h
    simp only [List.length_drop, List.length_cons, List.length_take] at hlen ⊢
    omega

/-- Extends a rising run, kept with its last element first. -/
def rising (last : α) (run : List α) : List α → Except ε (List α × List α)
  | [] => .ok ((last :: run).reverse, [])
  | x :: rest => do
    if ← less x last then return ((last :: run).reverse, x :: rest)
    else rising x (last :: run) rest

/-- Extends a strictly falling run, kept with its last and least element first. -/
def falling (last : α) (run : List α) : List α → Except ε (List α × List α)
  | [] => .ok (last :: run, [])
  | x :: rest => do
    if ← less x last then falling x (last :: run) rest
    else return (last :: run, x :: rest)

/-- The longest leading run that is in order or strictly falls, put in order, and what follows. -/
def leadingRun : List α → Except ε (List α × List α)
  | [] => .ok ([], [])
  | [x] => .ok ([x], [])
  | x :: y :: rest => do if ← less y x then falling less y [x] rest else rising less y [x] rest

/-- The leading run of a list, filled up to a length with the elements that follow. -/
def fullRun (length : Nat) (xs : List α) : Except ε (List α × List α) := do
  let (run, rest) ← leadingRun less xs
  let missing := length - run.length
  return (← insertEach (insertHalving less) run (rest.take missing), rest.drop missing)

/-- The six leading binary digits of a number, plus one if any other digit is set. -/
def leadingDigits (n : Nat) (restSet : Bool := false) : Nat :=
  if _h : n < 64 then n + restSet.toNat else leadingDigits (n / 2) (restSet || n % 2 = 1)
termination_by n

/-- The length to which short runs are filled up in a list of `total` elements, so that the number
of runs is a power of two or a little less. -/
def leastRun (total : Nat) : Nat := leadingDigits total

/-! ## Merging runs -/

/-- A run with its place in the list and the power of the boundary behind it. -/
structure Run (α : Type) where
  start : Nat
  items : List α
  power : Nat := 0

/-- The number of leading binary digits after the point up to the first in which the fractions
`a / n` and `b / n` differ. -/
def firstDifference (n : Nat) : (digits a b : Nat) → Nat
  | 0, _, _ => 0
  | digits + 1, a, b =>
    if n ≤ a then 1 + firstDifference n digits (2 * (a - n)) (2 * (b - n))
    else if n ≤ b then 1
    else 1 + firstDifference n digits (2 * a) (2 * b)

/-- The power of the boundary behind a run, given the length of the next run and of the list: the
digit in which the places of the middles of both runs first differ. -/
def power (run : Run α) (next total : Nat) : Nat :=
  let middle := 2 * run.start + run.items.length
  firstDifference total (total + 1) middle (middle + run.items.length + next)

/-- Merges the last two runs as long as the boundary between them is deeper than a power. Runs are
kept with the last one first. -/
def settle (power : Nat) (threshold : Nat) : List (Run α) → Except ε (List (Run α) × Nat)
  | z :: y :: rest =>
    if power < y.power then do
      let (items, threshold) ← merge less threshold y.items z.items
      settle power threshold ({ y with items } :: rest)
    else .ok (z :: y :: rest, threshold)
  | runs => .ok (runs, threshold)
termination_by runs => runs.length

/-- Sets the power of the boundary behind the last run. -/
def withPower (power : Nat) : List (Run α) → List (Run α)
  | run :: rest => { run with power } :: rest
  | [] => []

/-- Puts a run behind all others, after merging what its boundary is less deep than. -/
def push (total threshold : Nat) (runs : List (Run α)) (items : List α) :
    Except ε (List (Run α) × Nat) :=
  match runs with
  | [] => .ok ([{ start := 0, items }], threshold)
  | last :: _ => do
    let p := power last items.length total
    let (runs, threshold) ← settle less p threshold runs
    return ({ start := last.start + last.items.length, items } :: withPower p runs, threshold)

/-- Merges all runs, the last two or, if the last is longer than the third, the two before it. -/
def joinAll (threshold : Nat) : List (Run α) → Except ε (List α)
  | z :: y :: x :: rest =>
    if x.items.length < z.items.length then do
      let (items, threshold) ← merge less threshold x.items y.items
      joinAll threshold (z :: { x with items } :: rest)
    else do
      let (items, threshold) ← merge less threshold y.items z.items
      joinAll threshold ({ y with items } :: x :: rest)
  | [z, y] => do return (← merge less threshold y.items z.items).1
  | [z] => .ok z.items
  | [] => .ok []
termination_by runs => runs.length

/-! ## The sort -/

/-- Takes runs off a list, at most a number of them, and merges. -/
def collect (total : Nat) :
    Nat → (threshold : Nat) → (runs : List (Run α)) → List α → Except ε (List α)
  | _, threshold, runs, [] => joinAll less threshold runs
  | 0, threshold, runs, _ => joinAll less threshold runs
  | count + 1, threshold, runs, xs => do
    let (items, rest) ← fullRun less (leastRun total) xs
    let (runs, threshold) ← push less total threshold runs items
    collect total count threshold runs rest

def runSort (xs : List α) : Except ε (List α) :=
  collect less xs.length xs.length longBlock [] xs

end Chronicle.Sorting
