import Chronicle.Sorting.Gallop

/-!
# Merging runs

Two sorted runs that stand side by side become one, where elements of the first stand before equal
ones of the second. The shorter run is taken from its near end: a merge upwards starts with the
least elements, a merge downwards with the greatest. As long as neither run wins often in a row,
elements are compared one by one; then blocks are found by galloping, as long as the blocks are
long.

How many wins in a row start the galloping is the threshold, which falls while galloping pays and
rises when it does not; it is kept from one merge to the next.

## Main definitions

* `Sorting.mergeUp`, `Sorting.mergeDown` — the two directions.
* `Sorting.merge` — the merge of two runs.
-/

namespace Chronicle.Sorting

variable {α ε : Type}

/-- How a merge goes on: one by one, with the wins in a row of each run, or galloping. -/
inductive Pace where
  | counting (firstWins secondWins : Nat)
  | galloping

/-- What a merge has done: all, or a part, with the pace at which it goes on. The part that is
merged is kept with its inner end first, the runs with their near ends first. -/
inductive Progress (α : Type) where
  | finished (merged : List α)
  | going (pace : Pace) (merged first second : List α)

/-- The least number of elements in a block that makes galloping pay. -/
def longBlock : Nat := 7

def paceAfter (threshold wins : Nat) (counting : Pace) : Pace :=
  if threshold ≤ wins then .galloping else counting

/-- The pace after two blocks of the given lengths. -/
def paceAfterBlocks (m n : Nat) : Pace :=
  if longBlock ≤ m ∨ longBlock ≤ n then .galloping else .counting 0 0

/-- The threshold after a round, by the paces before and after it. -/
def nextThreshold (threshold : Nat) : Pace → Pace → Nat
  | .counting .., .galloping => threshold + 1
  | .galloping, .counting .. => threshold + 1
  | _, _ => threshold

/-- Goes on with a merge for a number of rounds; in every round an element is merged. -/
def goOn (round : Nat → Pace → (merged first second : List α) → Except ε (Nat × Progress α))
    (close : (merged first second : List α) → List α) :
    Nat → (threshold : Nat) → Pace → (merged first second : List α) → Except ε (List α × Nat)
  | 0, threshold, _, merged, xs, ys => .ok (close merged xs ys, threshold)
  | rounds + 1, threshold, pace, merged, xs, ys => do
    let (threshold, progress) ← round threshold pace merged xs ys
    match progress with
    | .finished merged => return (merged, threshold)
    | .going next merged xs ys =>
      goOn round close rounds (nextThreshold threshold pace next) next merged xs ys

variable (less : α → α → Except ε Bool)

/-! ## Upwards -/

/-- Merges the lesser of the first elements of both runs. -/
def countUp (threshold firstWins secondWins : Nat) (merged : List α) :
    List α → List α → Except ε (Progress α)
  | x :: xs, y :: ys => do
    if ← less y x then
      if ys.isEmpty then return .finished (merged.reverse ++ y :: x :: xs)
      return .going (paceAfter threshold (secondWins + 1) (.counting 0 (secondWins + 1)))
        (y :: merged) (x :: xs) ys
    else
      if xs.length = 1 then return .finished (merged.reverse ++ x :: y :: ys ++ xs)
      return .going (paceAfter threshold (firstWins + 1) (.counting (firstWins + 1) 0))
        (x :: merged) xs (y :: ys)
  | xs, ys => .ok (.finished (merged.reverse ++ xs ++ ys))

/-- Merges a block of each run, each with the element of the other run that ends it. -/
def gallopUp (merged : List α) : List α → List α → Except ε (Progress α)
  | xs, y :: ys => do
    let m ← gallopRight less y xs 0
    let merged := (xs.take m).reverse ++ merged
    match xs.drop m with
    | [] => return .finished (merged.reverse ++ y :: ys)
    | [x] => return .finished (merged.reverse ++ y :: ys ++ [x])
    | x :: xs =>
      if ys.isEmpty then return .finished (merged.reverse ++ y :: x :: xs)
      let n ← gallopLeft less x ys 0
      let merged := (ys.take n).reverse ++ y :: merged
      let ys := ys.drop n
      if ys.isEmpty then return .finished (merged.reverse ++ x :: xs)
      if xs.length = 1 then return .finished (merged.reverse ++ x :: ys ++ xs)
      return .going (paceAfterBlocks m n) (x :: merged) xs ys
  | xs, [] => .ok (.finished (merged.reverse ++ xs))

/-- A round of a merge upwards, and the threshold before it is adapted to the next pace. -/
def roundUp (threshold : Nat) (pace : Pace) (merged first second : List α) :
    Except ε (Nat × Progress α) :=
  match pace with
  | .counting m n => do return (threshold, ← countUp less threshold m n merged first second)
  | .galloping => do return (max 1 (threshold - 1), ← gallopUp less merged first second)

/-- What is merged upwards with the runs behind it. -/
def closeUp (merged first second : List α) : List α := merged.reverse ++ first ++ second

/-- Merges two runs upwards, the first element of the second run being the least. -/
def mergeUp (threshold : Nat) (first second : List α) : Except ε (List α × Nat) :=
  match second with
  | [] => .ok (first, threshold)
  | y :: ys =>
    if ys.isEmpty then .ok (y :: first, threshold)
    else if first.length = 1 then .ok (y :: ys ++ first, threshold)
    else
      goOn (roundUp less) closeUp (first.length + ys.length) threshold (.counting 0 0) [y] first ys

/-! ## Downwards -/

/-- Merges the greater of the last elements of both runs. -/
def countDown (threshold firstWins secondWins : Nat) (merged : List α) :
    List α → List α → Except ε (Progress α)
  | x :: xs, y :: ys => do
    if ← less y x then
      if xs.isEmpty then return .finished ((y :: ys).reverse ++ x :: merged)
      return .going (paceAfter threshold (firstWins + 1) (.counting (firstWins + 1) 0))
        (x :: merged) xs (y :: ys)
    else
      if ys.length = 1 then return .finished (ys ++ (x :: xs).reverse ++ y :: merged)
      return .going (paceAfter threshold (secondWins + 1) (.counting 0 (secondWins + 1)))
        (y :: merged) (x :: xs) ys
  | xs, ys => .ok (.finished (xs.reverse ++ ys.reverse ++ merged))

/-- Merges a block of each run, each with the element of the other run that ends it. -/
def gallopDown (merged : List α) : List α → List α → Except ε (Progress α)
  | xs, y :: ys => do
    let m := xs.length - (← gallopRight less y xs.reverse (xs.length - 1))
    let merged := y :: ((xs.take m).reverse ++ merged)
    match xs.drop m with
    | [] => return .finished (ys.reverse ++ merged)
    | x :: xs =>
      if ys.length = 1 then return .finished (ys ++ (x :: xs).reverse ++ merged)
      let n := ys.length - (← gallopLeft less x ys.reverse (ys.length - 1))
      let merged := (ys.take n).reverse ++ merged
      let ys := ys.drop n
      if ys.length ≤ 1 then return .finished (ys ++ (x :: xs).reverse ++ merged)
      if xs.isEmpty then return .finished (ys.reverse ++ x :: merged)
      return .going (paceAfterBlocks m n) (x :: merged) xs ys
  | xs, [] => .ok (.finished (xs.reverse ++ merged))

/-- A round of a merge downwards, and the threshold before it is adapted to the next pace. -/
def roundDown (threshold : Nat) (pace : Pace) (merged first second : List α) :
    Except ε (Nat × Progress α) :=
  match pace with
  | .counting m n => do return (threshold, ← countDown less threshold m n merged first second)
  | .galloping => do return (max 1 (threshold - 1), ← gallopDown less merged first second)

/-- What is merged downwards with the runs in front of it. -/
def closeDown (merged first second : List α) : List α := first.reverse ++ second.reverse ++ merged

/-- Merges two runs downwards, the last element of the first run being the greatest. -/
def mergeDown (threshold : Nat) (first second : List α) : Except ε (List α × Nat) :=
  match first.reverse with
  | [] => .ok (second, threshold)
  | x :: xs =>
    if xs.isEmpty then .ok (second ++ [x], threshold)
    else if second.length = 1 then .ok (second ++ first, threshold)
    else
      goOn (roundDown less) closeDown (xs.length + second.length) threshold (.counting 0 0) [x] xs
        second.reverse

/-! ## Both -/

/-- Merges two runs from the end of the shorter one, where the first element of the second run is
the least and the last of the first run the greatest. -/
def mergeShorter (threshold : Nat) (first second : List α) : Except ε (List α × Nat) :=
  if first.length ≤ second.length then mergeUp less threshold first second
  else mergeDown less threshold first second

/-- Merges two runs. Elements of the first that stand before all of the second stay where they are,
and so do elements of the second that stand behind all of the first. -/
def merge (threshold : Nat) (first second : List α) : Except ε (List α × Nat) :=
  match second with
  | [] => .ok (first, threshold)
  | y :: _ => do
    let m ← gallopRight less y first 0
    match (first.drop m).getLast? with
    | none => return (first ++ second, threshold)
    | some x =>
      let n ← gallopLeft less x second (second.length - 1)
      if n = 0 then return (first ++ second, threshold)
      let (merged, threshold) ← mergeShorter less threshold (first.drop m) (second.take n)
      return (first.take m ++ merged ++ second.drop n, threshold)

end Chronicle.Sorting
