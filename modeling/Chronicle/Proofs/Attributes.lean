import Chronicle.Diff
import Mathlib.Data.List.Basic

/-!
# Overwriting with attribute sets

Every set that is written name by name has each name once, and overwriting with such a set reads as
the set where it has a name. So overwriting with a difference takes back what an update changed.

## Main definitions

* `Attributes.Distinct` — a set that has each name once.

## Main statements

* `Attributes.distinct_diff` — a difference has each name once.
* `Attributes.get?_merge_diff` — overwriting with a difference.
* `Attributes.mem_names_diff`, `Attributes.names_diff` — the names of a difference.
-/

namespace Chronicle.Attributes

/-- Whether a set has each name once. -/
def Distinct (a : Attributes) : Prop := a.names.Nodup

/-- A name is there if it is one of the names. -/
theorem has_iff_mem_names {a : Attributes} {name : String} :
    a.has name = true ↔ name ∈ a.names := by
  rw [has, Option.isSome_iff_ne_none, get?, ne_eq, List.lookup_eq_none_iff, names]
  simp [List.mem_map]

theorem lookup_eq_none {entries : List (String × Value)} {name : String}
    (h : name ∉ entries.map (·.1)) : entries.lookup name = none := by
  refine List.lookup_eq_none_iff.2 fun e he => ?_
  simpa using fun heq : name = e.1 => h (heq ▸ List.mem_map_of_mem he)

/-- Changing every entry changes what is found. -/
theorem lookup_map_entries {α β : Type} (f : String → α → β) (entries : List (String × α))
    (name : String) :
    (entries.map fun e => (e.1, f e.1 e.2)).lookup name = (entries.lookup name).map (f name) := by
  induction entries with
  | nil => rfl
  | cons e rest ih =>
    obtain ⟨key, v⟩ := e
    by_cases h : name = key
    · simp [h]
    · have hne : (name == key) = false := beq_eq_false_iff_ne.2 h
      simp only [List.map_cons, List.lookup_cons, hne]
      exact ih

/-- In a set that has each name once, every entry is found under its name. -/
theorem Distinct.get?_of_mem {a : Attributes} (h : a.Distinct) {e : String × Value}
    (he : e ∈ a.entries) : a.get? e.1 = some e.2 := by
  obtain ⟨entries⟩ := a
  induction entries with
  | nil => cases he
  | cons head rest ih =>
    obtain ⟨hhead, hrest⟩ := List.nodup_cons.1 h
    rcases List.mem_cons.1 he with rfl | he
    · exact List.lookup_cons_self
    · have hne : e.1 ≠ head.1 := fun heq => hhead (List.mem_map.2 ⟨e, he, heq⟩)
      rw [get?, List.lookup_cons, beq_eq_false_iff_ne.2 hne]
      exact ih hrest he

/-- The entries of a set that has each name once are its names with their values. -/
theorem Distinct.entries_eq_map {a : Attributes} (h : a.Distinct) :
    a.entries = a.names.map fun name => (name, a.get name) := by
  rw [names, List.map_map]
  refine (List.map_id _).symm.trans (List.map_congr_left fun e he => ?_)
  simp [get, h.get?_of_mem he]

theorem mem_names_setIn {entries : List (String × Value)} {name other : String} {v : Value} :
    other ∈ (setIn name v entries).map (·.1) ↔ other = name ∨ other ∈ entries.map (·.1) := by
  induction entries with
  | nil => simp [setIn]
  | cons e rest ih =>
    obtain ⟨k, w⟩ := e
    by_cases hk : k = name
    · subst hk
      simp [setIn]
    · rw [setIn, if_neg hk, List.map_cons, List.map_cons, List.mem_cons, List.mem_cons, ih]
      tauto

theorem names_setIn_of_mem {entries : List (String × Value)} {name : String} (v : Value)
    (h : name ∈ entries.map (·.1)) : (setIn name v entries).map (·.1) = entries.map (·.1) := by
  induction entries with
  | nil => cases h
  | cons e rest ih =>
    obtain ⟨k, w⟩ := e
    by_cases hk : k = name
    · simp [setIn, hk]
    · have hrest : name ∈ rest.map (·.1) := (List.mem_cons.1 h).resolve_left (Ne.symm hk)
      simp only [setIn, if_neg hk, List.map_cons, ih hrest]

/-- Overwriting a name that is there keeps the names and their order. -/
theorem names_set_of_mem {a : Attributes} {name : String} (h : name ∈ a.names) (v : Value) :
    (a.set name v).names = a.names := names_setIn_of_mem v h

theorem names_setIn_of_not_mem {entries : List (String × Value)} {name : String} (v : Value)
    (h : name ∉ entries.map (·.1)) :
    (setIn name v entries).map (·.1) = entries.map (·.1) ++ [name] := by
  induction entries with
  | nil => rfl
  | cons e rest ih =>
    obtain ⟨hne, hrest⟩ := not_or.1 (mt List.mem_cons.2 h)
    rw [setIn, if_neg (Ne.symm hne), List.map_cons, ih hrest]
    rfl

/-- Overwriting with new names, each once, puts them at the end. -/
theorem names_merge {a : Attributes} {entries : List (String × Value)}
    (h : (a.names ++ entries.map (·.1)).Nodup) :
    (a.merge ⟨entries⟩).names = a.names ++ entries.map (·.1) := by
  induction entries generalizing a with
  | nil => exact (List.append_nil _).symm
  | cons e rest ih =>
    have hnew : e.1 ∉ a.names := fun hmem =>
      (List.nodup_append.1 h).2.2 _ hmem _ List.mem_cons_self rfl
    have hset : (a.set e.1 e.2).names = a.names ++ [e.1] := names_setIn_of_not_mem e.2 hnew
    rw [List.map_cons, List.append_cons, ← hset] at h
    rw [List.map_cons, List.append_cons, ← hset]
    exact ih h

theorem nodup_setIn {entries : List (String × Value)} {name : String} {v : Value}
    (h : (entries.map (·.1)).Nodup) : ((setIn name v entries).map (·.1)).Nodup := by
  induction entries with
  | nil => simp [setIn]
  | cons e rest ih =>
    obtain ⟨k, w⟩ := e
    obtain ⟨hk, hrest⟩ := List.nodup_cons.1 h
    by_cases heq : k = name
    · subst heq
      rw [setIn, if_pos rfl]
      exact h
    · rw [setIn, if_neg heq, List.map_cons]
      refine List.nodup_cons.2 ⟨fun hmem => ?_, ih hrest⟩
      exact (mem_names_setIn.1 hmem).elim heq hk

theorem Distinct.merge {a : Attributes} (h : a.Distinct) (b : Attributes) :
    (a.merge b).Distinct := by
  obtain ⟨entries⟩ := b
  induction entries generalizing a with
  | nil => exact h
  | cons e rest ih => exact ih (nodup_setIn h)

/-- A difference has each name once. -/
theorem distinct_diff (before after : Attributes) (tracked : List String) :
    (diff before after tracked).Distinct :=
  Distinct.merge (a := empty) List.nodup_nil _

/-- The names of a difference, in the order in which they are tracked. -/
theorem names_diff {before after : Attributes} {tracked : List String} (h : tracked.Nodup) :
    (diff before after tracked).names = tracked.filter (differsAt before after) := by
  have hnames : ((tracked.filter (differsAt before after)).map fun name =>
      (name, before.get name)).map (·.1) = tracked.filter (differsAt before after) := by
    rw [List.map_map]
    exact List.map_id _
  refine (names_merge ?_).trans hnames
  rw [hnames]
  exact h.filter _

theorem lookup_reverse {entries : List (String × Value)} (h : (entries.map (·.1)).Nodup)
    (name : String) : entries.reverse.lookup name = entries.lookup name := by
  induction entries with
  | nil => rfl
  | cons e rest ih =>
    obtain ⟨k, w⟩ := e
    obtain ⟨hk, hrest⟩ := List.nodup_cons.1 h
    rw [List.reverse_cons, List.lookup_append, ih hrest]
    by_cases heq : name = k
    · subst heq
      simp [lookup_eq_none hk]
    · have hne : (name == k) = false := beq_eq_false_iff_ne.2 heq
      simp [List.lookup_cons, hne]

/-- Overwriting with a set that has each name once reads as the set where it has a name. -/
theorem get?_merge_of_distinct (a : Attributes) {b : Attributes} (hb : b.Distinct) (name : String) :
    (a.merge b).get? name = (b.get? name).or (a.get? name) := by
  rw [get?_merge, lookup_reverse hb]
  rfl

/-- Overwriting with a difference takes back the tracked attributes that differ. -/
theorem get?_merge_diff (a before after : Attributes) (tracked : List String) (name : String) :
    (a.merge (diff before after tracked)).get? name =
      if name ∈ tracked ∧ differsAt before after name = true then some (before.get name)
      else a.get? name := by
  rw [get?_merge_of_distinct a (distinct_diff before after tracked), get?_diff]
  split
  · rfl
  · rfl

theorem has_diff {before after : Attributes} {tracked : List String} {name : String} :
    (diff before after tracked).has name = true ↔
      name ∈ tracked ∧ differsAt before after name = true := by
  rw [has, get?_diff]
  split
  · exact iff_of_true rfl ‹_›
  · exact iff_of_false Bool.false_ne_true ‹_›

theorem mem_names_diff {before after : Attributes} {tracked : List String} {name : String} :
    name ∈ (diff before after tracked).names ↔
      name ∈ tracked ∧ differsAt before after name = true :=
  has_iff_mem_names.symm.trans has_diff

end Chronicle.Attributes
