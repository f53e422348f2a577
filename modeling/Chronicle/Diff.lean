import Chronicle.Entity

/-!
# Differences of attribute sets

An update is recorded by what it overwrote: for every tracked attribute whose value changed, the
value before the update. An attribute that is absent counts as null.

## Main definitions

* `Attributes.diff` — the previous values of the tracked attributes that changed.
* `Modification.between` — the entry for an update of an entity.

## Main statements

* `Attributes.get?_diff` — which names a difference holds, and their values.
-/

namespace Chronicle

namespace Attributes

/-- Whether an attribute differs between two sets. -/
def differsAt (before after : Attributes) (name : String) : Bool :=
  !(before.get name).same (after.get name)

def diff (before after : Attributes) (tracked : List String) : Attributes :=
  ofEntries ((tracked.filter (differsAt before after)).map fun name => (name, before.get name))

theorem lookup_map_self {α : Type} (names : List String) (f : String → α) (name : String) :
    (names.map fun n => (n, f n)).lookup name = if name ∈ names then some (f name) else none := by
  induction names with
  | nil => simp
  | cons n rest ih =>
    by_cases h : name = n
    · subst h; simp
    · have hb : (name == n) = false := by simpa using h
      simp [List.lookup_cons, hb, ih, h]

/-- A difference holds exactly the tracked attributes that differ, with the value before. -/
theorem get?_diff (before after : Attributes) (tracked : List String) (name : String) :
    (diff before after tracked).get? name =
      if name ∈ tracked ∧ differsAt before after name = true then some (before.get name)
      else none := by
  rw [diff, ofEntries, get?_merge, ← List.map_reverse, lookup_map_self, get?_empty]
  simp [List.mem_filter]

end Attributes

/-- The entry for an update of one entity, attributed to an actor. -/
def Modification.between (before after : Entity) (tracked : List String) (actor : Option Actor)
    (timestamp : Moment) : Except Error Modification :=
  match actor with
  | none => .error (.missingActor "update")
  | some actor =>
    if before.id = after.id ∧ before.kind = after.kind then
      .ok {
        kind := after.kind
        entityId := after.id
        actorId := actor.id
        timestamp := timestamp
        diffs := before.attributes.diff after.attributes tracked }
    else
      .error (.differentEntities before.kind.name before.id after.kind.name after.id)

end Chronicle
