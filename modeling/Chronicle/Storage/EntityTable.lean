import Chronicle.Entity

/-!
# Tables of entities

The entities of one kind in increasing order of their ids, each id once.

## Main definitions

* `EntityTable` — the tables; `get?` is the view through which the operations are described.
* `EntityTable.upsert`, `EntityTable.overlay` — writing one entity, writing all of another table.

## Main statements

* `EntityTable.get?_upsert` — what writing does to the view.
-/

namespace Chronicle

/-- The entities of one kind, in increasing order of their ids. -/
structure EntityTable where
  rows : List Entity
  ordered : rows.Pairwise fun a b => a.id < b.id

namespace EntityTable

def empty : EntityTable := ⟨[], .nil⟩

def get? (t : EntityTable) (id : Int) : Option Entity := t.rows.find? (·.id == id)

def size (t : EntityTable) : Nat := t.rows.length

/-- Puts an entity in its place; one of the same id is replaced. -/
def place (e : Entity) : List Entity → List Entity
  | [] => [e]
  | r :: rest =>
    if e.id < r.id then e :: r :: rest
    else if e.id = r.id then e :: rest
    else r :: place e rest

theorem mem_place {e x : Entity} {rows : List Entity} (h : x ∈ place e rows) :
    x = e ∨ x ∈ rows := by
  induction rows with
  | nil => simpa [place] using h
  | cons r rest ih =>
    unfold place at h
    split at h
    · simpa using h
    · split at h
      · rcases List.mem_cons.1 h with rfl | h
        · exact .inl rfl
        · exact .inr (List.mem_cons_of_mem _ h)
      · rcases List.mem_cons.1 h with rfl | h
        · exact .inr List.mem_cons_self
        · exact (ih h).imp_right (List.mem_cons_of_mem _)

theorem pairwise_place (e : Entity) {rows : List Entity}
    (h : rows.Pairwise fun a b => a.id < b.id) :
    (place e rows).Pairwise fun a b => a.id < b.id := by
  induction rows with
  | nil => simp [place]
  | cons r rest ih =>
    obtain ⟨hr, hrest⟩ := List.pairwise_cons.1 h
    unfold place
    split
    · refine List.pairwise_cons.2 ⟨fun x hx => ?_, h⟩
      rcases List.mem_cons.1 hx with rfl | hx
      · assumption
      · exact Int.lt_trans ‹_› (hr x hx)
    · split
      · exact List.pairwise_cons.2 ⟨fun x hx => by have := hr x hx; omega, hrest⟩
      · refine List.pairwise_cons.2 ⟨fun x hx => ?_, ih hrest⟩
        rcases mem_place hx with rfl | hx
        · omega
        · exact hr x hx

/-- Writes an entity under its id. -/
def upsert (t : EntityTable) (e : Entity) : EntityTable :=
  ⟨place e t.rows, pairwise_place e t.ordered⟩

/-- Writes all entities of another table. -/
def overlay (t staged : EntityTable) : EntityTable := staged.rows.foldl upsert t

/-! ## The view -/

@[simp] theorem get?_empty (id : Int) : empty.get? id = none := rfl

theorem find?_place (e : Entity) {rows : List Entity}
    (h : rows.Pairwise fun a b => a.id < b.id) (id : Int) :
    (place e rows).find? (·.id == id) = if id = e.id then some e else rows.find? (·.id == id) := by
  have he : id ≠ e.id → (e.id == id) = false := fun hid => by simpa using Ne.symm hid
  induction rows with
  | nil =>
    by_cases hid : id = e.id
    · simp [place, hid]
    · simp [place, hid, he hid]
  | cons r rest ih =>
    obtain ⟨hr, hrest⟩ := List.pairwise_cons.1 h
    unfold place
    split
    · by_cases hid : id = e.id
      · simp [hid]
      · simp [hid, he hid]
    · split
      · rename_i heq
        by_cases hid : id = e.id
        · simp [hid]
        · have hr' : (r.id == id) = false := heq ▸ he hid
          simp [hid, he hid, hr']
      · rename_i hne
        rw [List.find?_cons, List.find?_cons, ih hrest]
        by_cases hid : id = e.id
        · have hr' : (r.id == e.id) = false := by simpa using Ne.symm hne
          simp [hid, hr']
        · simp [hid]

theorem get?_upsert (t : EntityTable) (e : Entity) (id : Int) :
    (t.upsert e).get? id = if id = e.id then some e else t.get? id :=
  find?_place e t.ordered id

end EntityTable

end Chronicle
