import Chronicle.Proofs.Service.Footprint
import Chronicle.Proofs.Service.Simulation

/-!
# Updates of different entities commute

Two runs of the same updates, in which the updates of each entity come in the same order, leave the
same file of every entity. The logs of the kinds need not be equal: entries of different entities at
one moment are in the order of the calls. But what the service answers depends only on the files, so
it cannot tell the runs apart.

## Main definitions

* `Store.SameFiles` — stores with the same files and additions.
* `Store.Interchangeable` — calls that come to the same in either order.

## Main statements

* `Store.SameFiles.reconstructAt_simulates` — reconstructions depend only on files and additions.
* `Ledger.sameFiles_after` — permuted updates leave the same files.
* `updates_interchangeable` — permuted updates come to the same.
-/

namespace Chronicle

open Service

/-! ## Stores with the same files -/

/-- Whether two stores that writes account for have the same file of every entity and the same log
of additions. -/
structure Store.SameFiles (s t : Store) : Prop where
  left : ∃ ws, Ledger ws s
  right : ∃ ws, Ledger ws t
  files : ∀ kind id, s.file kind id = t.file kind id
  additions : s.additions = t.additions

namespace Store.SameFiles

variable {s t : Store}

theorem find?_eq (h : s.SameFiles t) (kind : Kind) (id : Int) : s.find? kind id = t.find? kind id :=
  congrArg EntityFile.entity (h.files kind id)

theorem entries_eq (h : s.SameFiles t) (kind : Kind) (id : Int) :
    (s.modifications.ofKind kind).filter (·.entityId == id) =
      (t.modifications.ofKind kind).filter (·.entityId == id) :=
  congrArg EntityFile.entries (h.files kind id)

theorem entities_eq (h : s.SameFiles t) : s.entities = t.entities :=
  ByKind.ext_get fun kind => EntityTable.ext_get? (h.find?_eq kind)

theorem auditTrail_eq (h : s.SameFiles t) (kindValue : Value) (id : Int) :
    (auditTrail kindValue id s).result = (auditTrail kindValue id t).result := by
  cases hkind : Kind.ofValue kindValue with
  | ok kind =>
    obtain rfl := eq_name_of_ofValue hkind
    rw [Service.auditTrail_eq, Service.auditTrail_eq, h.entries_eq]
  | error e =>
    unfold auditTrail
    rw [hkind]
    rfl

/-- The rows of a reconstruction are computed one by one from the files. -/
theorem reconstructAt_eq (h : s.SameFiles t) (kindValue : Value) (moment : Moment)
    (name? : Option String) :
    (reconstructAt kindValue moment name? s).result =
      (reconstructAt kindValue moment name? t).result := by
  rcases reconstructAt_cases kindValue moment name? with
    ⟨kind, name, now, rfl, rfl, hname, hnow⟩ | ⟨e, he⟩
  · obtain ⟨ws, hs⟩ := h.left
    obtain ⟨vs, ht⟩ := h.right
    have hpresent : s.presentBefore kind (.naive now) = t.presentBefore kind (.naive now) := by
      rw [Store.presentBefore, Store.addedSince, h.entities_eq, h.additions]
      rfl
    rw [Service.reconstructAt_eq hs.sound hs.ordered hname hnow,
      Service.reconstructAt_eq ht.sound ht.ordered hname hnow, hpresent]
    refine congrArg (sortRows _) (List.map_congr_left fun e _ => ?_)
    exact rowFor_filter_congr (h.entries_eq kind e.id) _ _ _
  · rw [he, he]

theorem reconstructAt_simulates (kindValue : Value) (moment : Moment) (name? : Option String) :
    Operation.Simulates SameFiles (reconstructAt kindValue moment name?)
      (reconstructAt kindValue moment name?) := by
  intro s t h
  have hread := reconstructAt_readOnly kindValue moment name?
  rw [hread.state, hread.state]
  exact ⟨h.reconstructAt_eq kindValue moment name?, h⟩

theorem movements_eq (h : s.SameFiles t) (kindValue : Value) (source target : Moment)
    (name? : Option String) :
    (Service.movements kindValue source target name? s).result =
      (Service.movements kindValue source target name? t).result :=
  (movements_simulates (fun moment => reconstructAt_simulates kindValue moment name?)
    source target s t h).1

end Store.SameFiles

/-! ## Permuted updates -/

/-- Whether two lists of calls come to the same on a store: each call gets the same answer, and no
read can tell the stores apart that they leave. -/
structure Store.Interchangeable (s : Store) (us vs : List Call) : Prop where
  /-- The same calls get the same answers. -/
  answers : (s.answered us).Perm (s.answered vs)
  /-- Call by call of each entity, the answers are the same. -/
  answersOn : ∀ kind id,
    answersOn (some (kind, id)) (s.answered us) = answersOn (some (kind, id)) (s.answered vs)
  entities : (s.after us).entities = (s.after vs).entities
  auditTrail : ∀ kind id,
    (auditTrail kind id (s.after us)).result = (auditTrail kind id (s.after vs)).result
  reconstructAt : ∀ kind moment name,
    (reconstructAt kind moment name (s.after us)).result =
      (reconstructAt kind moment name (s.after vs)).result
  movements : ∀ kind source target name,
    (Service.movements kind source target name (s.after us)).result =
      (Service.movements kind source target name (s.after vs)).result

section Permuted

variable {ws : List Write} {s : Store} {us vs : List Call}

/-- Updates leave the same files if those of each entity come in the same order. -/
theorem Ledger.sameFiles_after (h : Ledger ws s) (hus : ∀ c ∈ us, c.request.isUpdate = true)
    (hvs : ∀ c ∈ vs, c.request.isUpdate = true)
    (hsame : ∀ kind id, callsOn (some (kind, id)) us = callsOn (some (kind, id)) vs) :
    (s.after us).SameFiles (s.after vs) where
  left := ⟨_, h.after us⟩
  right := ⟨_, h.after vs⟩
  files kind id := by
    rw [(h.file_after h hus rfl).1, (h.file_after h hvs rfl).1, hsame]
  additions := by rw [h.additions_after hus, h.additions_after hvs]

/-- Permuted updates get the same answers if those of each entity do. -/
theorem perm_answers (s : Store) (hus : ∀ c ∈ us, c.request.isUpdate = true) (hperm : us.Perm vs)
    (hsame : ∀ kind id, answersOn (some (kind, id)) (s.answered us) =
      answersOn (some (kind, id)) (s.answered vs)) : (s.answered us).Perm (s.answered vs) := by
  refine Sorting.perm_of_filters (fun answer => answer.1.request.target?) fun target => ?_
  cases target with
  | some target => exact .of_eq (hsame target.1 target.2)
  | none =>
    have hvs : ∀ c ∈ vs, c.request.isUpdate = true := fun c hc => hus c (hperm.mem_iff.2 hc)
    have hnone : (answersOn none (s.answered us)).Perm (answersOn none (s.answered vs)) := by
      rw [answersOn_none s hus, answersOn_none s hvs]
      exact (hperm.filter _).map _
    exact hnone

end Permuted

/-- Updates of different entities commute. From the store that any calls led to, let two lists of
updates, at any readings of the clock, be permutations of each other in which the updates of each
entity come in the same order. Then each update gets the same answer in both, and the stores that
they leave have the same entities and give the same answers to all requests for audit trails,
reconstructions and movements. -/
theorem updates_interchangeable (calls : List Call) {us vs : List Call}
    (hus : ∀ c ∈ us, c.request.isUpdate = true) (hperm : us.Perm vs)
    (hsame : ∀ kind id, callsOn (some (kind, id)) us = callsOn (some (kind, id)) vs) :
    (Store.empty.after calls).Interchangeable us vs := by
  have h := ledger_of_run calls
  have hvs : ∀ c ∈ vs, c.request.isUpdate = true := fun c hc => hus c (hperm.mem_iff.2 hc)
  have hfiles := h.sameFiles_after hus hvs hsame
  have hanswers : ∀ kind id,
      answersOn (some (kind, id)) ((Store.empty.after calls).answered us) =
        answersOn (some (kind, id)) ((Store.empty.after calls).answered vs) := by
    intro kind id
    rw [(h.file_after h hus rfl).2, (h.file_after h hvs rfl).2, hsame]
  exact ⟨perm_answers _ hus hperm hanswers, hanswers, hfiles.entities_eq, hfiles.auditTrail_eq,
    hfiles.reconstructAt_eq, hfiles.movements_eq⟩

/-! ## Two updates at one moment -/

/-- A demon that is created at a position. -/
def sampleCreation (name : String) (position : Int) : Call where
  request := .create (.text "demon") (.object [
    ("name", .text name), ("position", .int position), ("requirement", .int 50),
    ("verifier", .int 10), ("publisher", .int 11), ("difficulty", .text "extreme")])
    (some ⟨7, none⟩)
  clock := .naive ⟨60, by decide⟩

/-- A demon that is moved to a position. -/
def sampleMove (id position : Int) : Call where
  request := .update (.text "demon") id ⟨[("position", .int position)]⟩ (some ⟨7, none⟩)
  clock := .naive ⟨70, by decide⟩

/-- Two demons that change places at one moment can do so in either order, although the log then
holds the two entries in that order. -/
theorem updates_interchangeable_sampleMove :
    let calls := [sampleCreation "Bloodbath" 1, sampleCreation "Cataclysm" 2]
    let us := [sampleMove 1 2, sampleMove 2 1]
    let vs := [sampleMove 2 1, sampleMove 1 2]
    let s := Store.empty.after calls
    ((s.after us).modifications.ofKind .demon).map (·.entityId) = [1, 2] ∧
      ((s.after vs).modifications.ofKind .demon).map (·.entityId) = [2, 1] ∧
      (∀ c ∈ us, c.request.isUpdate = true) ∧ us.Perm vs ∧
      (∀ kind id, callsOn (some (kind, id)) us = callsOn (some (kind, id)) vs) ∧
      s.Interchangeable us vs := by
  intro calls us vs s
  have hus : ∀ c ∈ us, c.request.isUpdate = true := by simp [us, sampleMove, Request.isUpdate]
  have hperm : us.Perm vs := .swap _ _ []
  have hsame : ∀ kind id, callsOn (some (kind, id)) us = callsOn (some (kind, id)) vs := by
    intro kind id
    have hfirst : (sampleMove 1 2).request.target? = some (.demon, 1) := rfl
    have hsecond : (sampleMove 2 1).request.target? = some (.demon, 2) := rfl
    simp only [us, vs, callsOn_cons, hfirst, hsecond]
    by_cases hid : id = 1
    · simp [hid]
    · simp [Ne.symm hid]
  exact ⟨by decide +kernel, by decide +kernel, hus, hperm, hsame,
    updates_interchangeable calls hus hperm hsame⟩

end Chronicle
