import Chronicle.Time.Moment

/-!
# Timelines

A timeline is a list of stamped entries in the order of their moments; entries of one moment keep
the order in which they came. Placing or cutting by a moment fails when the timeline holds moments
that cannot be compared with it.

## Main definitions

* `Timeline.insert` — places an entry after all that are not later.
* `Timeline.since` — the entries from a moment on.
* `Timeline.notBefore` — the same of a list in any order.
* `Timeline.sort` — the stable order of a list by moments.
-/

namespace Chronicle.Timeline

variable {α : Type} (stamp : α → Moment)

/-- Places an entry after all that are not later. -/
def insert (x : α) : List α → Except Error (List α)
  | [] => .ok [x]
  | y :: rest => do
    if ← (stamp x).before (stamp y) then return x :: y :: rest
    else return y :: (← insert x rest)

/-- The entries that are not before a moment. -/
def since (start : Moment) : List α → Except Error (List α)
  | [] => .ok []
  | y :: rest => do if ← (stamp y).before start then since start rest else return y :: rest

def sinceOr (start : Option Moment) (xs : List α) : Except Error (List α) :=
  match start with
  | none => .ok xs
  | some start => since stamp start xs

/-- The entries of a list in any order that are not before a moment. -/
def notBefore (start : Moment) (xs : List α) : Except Error (List α) :=
  if xs.all fun x => (stamp x).isAware == start.isAware then
    .ok (xs.filter fun x => decide (start.instant ≤ (stamp x).instant))
  else .error .mixedAwareness

/-- Whether all moments of a list can be compared with each other. -/
def comparable (xs : List α) : Bool :=
  xs.all (fun x => (stamp x).isAware) || xs.all fun x => !(stamp x).isAware

/-- A list in the order of its moments; entries of one moment keep their order. -/
def sort (xs : List α) : Except Error (List α) :=
  if comparable stamp xs then
    .ok (xs.mergeSort fun x y => decide ((stamp x).instant ≤ (stamp y).instant))
  else .error .mixedAwareness

end Chronicle.Timeline
