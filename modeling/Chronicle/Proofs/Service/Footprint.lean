import Chronicle.Proofs.History.Stability
import Chronicle.Proofs.Reconstruction.Presence

/-!
# What an update depends on and what it changes

The file of an entity is its state and its modifications. An update depends only on the file of its
target, and changes no other. So whatever other updates come between, the updates of one entity get
the same answers and leave the same file as if they were alone.

## Main definitions

* `Store.file` — the file of an entity.
* `Request.target?` — the entity that a request is to change.
* `callsOn`, `answersOn` — the calls of a list that are to change an entity, and their answers.

## Main statements

* `Call.update_congr` — an update depends only on the file of its target.
* `Call.file_step_of_ne` — an update changes no other file.
* `Ledger.file_after` — the updates of one entity among others.
-/

namespace Chronicle

open Service

/-! ## Files -/

/-- An entity, if there is one, and its modifications in the order of the log. -/
structure EntityFile where
  entity : Option Entity
  entries : List Modification

namespace Store

variable {s : Store} {e : Entity} {m : Modification}

/-- The file of an entity. -/
def file (s : Store) (kind : Kind) (id : Int) : EntityFile where
  entity := s.find? kind id
  entries := (s.modifications.ofKind kind).filter (·.entityId == id)

/-- Changing an entity puts the modification in its place in the file, and leaves other files. -/
theorem file_withUpdated (hs : s.Ordered) (hkind : m.kind = e.kind) (hid : m.entityId = e.id)
    (kind : Kind) (id : Int) :
    (s.withUpdated e m).file kind id =
      if kind = e.kind ∧ id = e.id then
        ⟨some e, Timeline.place Modification.timestamp m (s.file kind id).entries⟩
      else s.file kind id := by
  have hplaced := (hs.modifications kind).filter_place (x := m) (·.entityId == id)
  rw [file, find?_withUpdated, withUpdated, ModificationLog.ofKind_place, hkind]
  by_cases hk : kind = e.kind
  · rw [if_pos hk, hplaced, hid]
    by_cases hi : id = e.id
    · simp [hk, hi, file]
    · simp [hi, Ne.symm hi, file]
  · simp [hk, file]

end Store

/-! ## Targets -/

/-- The entity that a request is to change, if the request names a kind. -/
def Request.target? : Request → Option (Kind × Int)
  | update kind id _ _ => (Kind.ofValue kind).toOption.map (·, id)
  | _ => none

/-- The calls of a list that are to change an entity. -/
def callsOn (target : Option (Kind × Int)) (calls : List Call) : List Call :=
  calls.filter (·.request.target? = target)

/-- The answers to the calls that are to change an entity. -/
def answersOn (target : Option (Kind × Int)) (answers : List (Call × Except Error Response)) :
    List (Call × Except Error Response) :=
  answers.filter (·.1.request.target? = target)

theorem callsOn_cons (target : Option (Kind × Int)) (c : Call) (calls : List Call) :
    callsOn target (c :: calls) =
      if c.request.target? = target then c :: callsOn target calls else callsOn target calls := by
  simp [callsOn, List.filter_cons]

theorem answersOn_cons (target : Option (Kind × Int)) (c : Call) (r : Except Error Response)
    (answers : List (Call × Except Error Response)) :
    answersOn target ((c, r) :: answers) =
      if c.request.target? = target then (c, r) :: answersOn target answers
      else answersOn target answers := by
  simp [answersOn, List.filter_cons]

/-! ## One update -/

namespace Service

variable {s t : Store} {kindValue : Value} {kind : Kind} {id : Int} {changes : Attributes}
  {actor? : Option Actor} {clock : Moment}

/-- The checks of an update depend only on the state of its entity. -/
theorem updatedEntity_congr (hkind : Kind.ofValue kindValue = .ok kind)
    (h : s.find? kind id = t.find? kind id) :
    updatedEntity s kindValue id changes actor? clock =
      updatedEntity t kindValue id changes actor? clock := by
  rw [updatedEntity, updatedEntity, hkind]
  simp only [ok_bind, alteredEntity, h]

end Service

namespace Request

variable {kindValue : Value} {kind : Kind} {id : Int} {changes : Attributes}
  {actor? : Option Actor}

theorem target?_update (hkind : Kind.ofValue kindValue = .ok kind) :
    (update kindValue id changes actor?).target? = some (kind, id) := by
  rw [target?, hkind]
  rfl

theorem ofValue_of_target? {target : Kind × Int}
    (h : (update kindValue id changes actor?).target? = some target) :
    Kind.ofValue kindValue = .ok target.1 ∧ id = target.2 := by
  cases hkind : Kind.ofValue kindValue with
  | ok kind =>
    rw [target?_update hkind] at h
    cases h
    exact ⟨rfl, rfl⟩
  | error e =>
    rw [target?, hkind] at h
    cases h

end Request

namespace Call

variable {ws vs : List Write} {s t : Store} {c : Call} {kind : Kind} {id : Int}

theorem eq_update (hc : c.request.isUpdate = true) :
    ∃ kindValue id changes actor? clock, c = ⟨.update kindValue id changes actor?, clock⟩ := by
  obtain ⟨request, clock⟩ := c
  cases request with
  | update kindValue id changes actor? => exact ⟨kindValue, id, changes, actor?, clock, rfl⟩
  | _ => cases hc

/-- An update depends only on the file of its target. -/
theorem update_congr (hs : Ledger ws s) (ht : Ledger vs t) (hc : c.request.isUpdate = true)
    (htarget : c.request.target? = some (kind, id)) (h : s.file kind id = t.file kind id) :
    (c.perform s).result = (c.perform t).result ∧
      (c.step s).file kind id = (c.step t).file kind id := by
  obtain ⟨kindValue, id', changes, actor?, clock, rfl⟩ := eq_update hc
  obtain ⟨hkind, rfl⟩ := Request.ofValue_of_target? htarget
  have hentity : s.find? kind id' = t.find? kind id' := congrArg EntityFile.entity h
  have hresults : (update kindValue id' changes actor? clock s).result =
      (update kindValue id' changes actor? clock t).result := by
    rw [update_result hs.sound, update_result ht.sound, updatedEntity_congr hkind hentity]
  simp only [step, perform, Operation.map_result, Operation.map_state]
  refine ⟨congrArg (Response.entity <$> ·) hresults, ?_⟩
  rcases update_cases hs.sound kindValue id' changes actor? clock with
    ⟨before, attributes, actor, now, hk, hid, hbefore, hvalid, hactor, hnow, hresult, hstate⟩ |
    ⟨e, -, hresult, hstate⟩
  · rcases update_cases ht.sound kindValue id' changes actor? clock with
      ⟨before', attributes', actor', now', hk', hid', hbefore', hvalid', hactor', hnow', -,
        hstate'⟩ | ⟨e, -, hresult', -⟩
    · -- Both find the same entity, so both write the same.
      obtain rfl : before = before' := by
        rw [← Except.ok.inj (hkind.symm.trans hk), hid] at hbefore
        rw [← Except.ok.inj (hkind.symm.trans hk'), hid'] at hbefore'
        exact Option.some.inj ((hbefore.symm.trans hentity).trans hbefore')
      cases hvalid.symm.trans hvalid'
      cases hactor.symm.trans hactor'
      cases hnow.symm.trans hnow'
      rw [hstate, hstate', Store.file_withUpdated hs.ordered rfl rfl,
        Store.file_withUpdated ht.ordered rfl rfl, h]
    · rw [hresult, hresult'] at hresults
      cases hresults
  · rcases update_cases ht.sound kindValue id' changes actor? clock with
      ⟨before', attributes', actor', now', -, -, -, -, -, -, hresult', -⟩ | ⟨e, -, -, hstate'⟩
    · rw [hresult, hresult'] at hresults
      cases hresults
    · rw [hstate, hstate', h]

/-- An update changes no file but that of its target. -/
theorem file_step_of_ne (hs : Ledger ws s) (hc : c.request.isUpdate = true)
    (htarget : c.request.target? ≠ some (kind, id)) :
    (c.step s).file kind id = s.file kind id := by
  obtain ⟨kindValue, id', changes, actor?, clock, rfl⟩ := eq_update hc
  rw [step, perform, Operation.map_state]
  rcases update_cases hs.sound kindValue id' changes actor? clock with
    ⟨before, attributes, actor, now, hk, rfl, -, -, -, -, -, hstate⟩ | ⟨e, -, -, hstate⟩
  · rw [hstate, Store.file_withUpdated hs.ordered rfl rfl, if_neg]
    rintro ⟨rfl, rfl⟩
    exact htarget (Request.target?_update hk)
  · rw [hstate]

/-- An update leaves the log of additions. -/
theorem additions_step (hs : Ledger ws s) (hc : c.request.isUpdate = true) :
    (c.step s).additions = s.additions := by
  obtain ⟨kindValue, id', changes, actor?, clock, rfl⟩ := eq_update hc
  rw [step, perform, Operation.map_state]
  rcases update_cases hs.sound kindValue id' changes actor? clock with
    ⟨before, attributes, actor, now, -, -, -, -, -, -, -, hstate⟩ | ⟨e, -, -, hstate⟩
  · rw [hstate]
    rfl
  · rw [hstate]

/-- An update that names no kind gets the same answer from every store. -/
theorem result_eq_of_target?_eq_none (hc : c.request.isUpdate = true)
    (htarget : c.request.target? = none) (s t : Store) :
    (c.perform s).result = (c.perform t).result := by
  obtain ⟨kindValue, id', changes, actor?, clock, rfl⟩ := eq_update hc
  rw [perform, Operation.map_result, Operation.map_result]
  rcases update_alike kindValue id' changes actor? clock with
    ⟨kind, -, hkind, -, -⟩ | ⟨e, -, halike⟩
  · rw [Request.target?_update hkind] at htarget
    cases htarget
  · rw [(halike s).1, (halike t).1]
    rfl

end Call

/-! ## Updates in a row -/

variable {ws vs : List Write} {s t : Store} {kind : Kind} {id : Int} {us : List Call}

namespace Ledger

/-- Among other updates, the updates of one entity leave the file and get the answers that they
would leave and get alone, on any store with the same file. -/
theorem file_after (hs : Ledger ws s) (ht : Ledger vs t) (hus : ∀ c ∈ us, c.request.isUpdate = true)
    (h : s.file kind id = t.file kind id) :
    (s.after us).file kind id = (t.after (callsOn (some (kind, id)) us)).file kind id ∧
      answersOn (some (kind, id)) (s.answered us) = t.answered (callsOn (some (kind, id)) us) := by
  induction us generalizing s t ws vs with
  | nil => exact ⟨h, rfl⟩
  | cons c rest ih =>
    obtain ⟨hc, hrest⟩ := List.forall_mem_cons.1 hus
    rw [Store.after_cons, Store.answered_cons, answersOn_cons, callsOn_cons]
    by_cases htarget : c.request.target? = some (kind, id)
    · obtain ⟨hresult, hfile⟩ := Call.update_congr hs ht hc htarget h
      obtain ⟨hafter, hanswers⟩ := ih (hs.step c) (ht.step c) hrest hfile
      rw [if_pos htarget, if_pos htarget, Store.after_cons, Store.answered_cons, hresult]
      exact ⟨hafter, congrArg (_ :: ·) hanswers⟩
    · rw [if_neg htarget, if_neg htarget]
      exact ih (hs.step c) ht hrest ((Call.file_step_of_ne hs hc htarget).trans h)

/-- Updates leave the log of additions. -/
theorem additions_after (hs : Ledger ws s) (hus : ∀ c ∈ us, c.request.isUpdate = true) :
    (s.after us).additions = s.additions := by
  induction us generalizing s ws with
  | nil => rfl
  | cons c rest ih =>
    obtain ⟨hc, hrest⟩ := List.forall_mem_cons.1 hus
    rw [Store.after_cons, ih (hs.step c) hrest, Call.additions_step hs hc]

end Ledger

/-- The answers to updates that name no kind, in their order. -/
theorem answersOn_none (s : Store) (hus : ∀ c ∈ us, c.request.isUpdate = true) :
    answersOn none (s.answered us) =
      (callsOn none us).map fun c => (c, (c.perform Store.empty).result) := by
  induction us generalizing s with
  | nil => rfl
  | cons c rest ih =>
    obtain ⟨hc, hrest⟩ := List.forall_mem_cons.1 hus
    rw [Store.answered_cons, answersOn_cons, callsOn_cons, ih _ hrest]
    by_cases htarget : c.request.target? = none
    · rw [if_pos htarget, if_pos htarget, List.map_cons,
        Call.result_eq_of_target?_eq_none hc htarget s .empty]
    · rw [if_neg htarget, if_neg htarget]

end Chronicle
