import Chronicle.Proofs.Schema.Normal
import Chronicle.Proofs.Service.Read

/-!
# Runs of the service

A run is a list of calls, each with the reading of the clock at its time, from the empty store. A
call is a write that succeeds, or it leaves all but spent ids as it was.

## Main definitions

* `Request`, `Response`, `Call` — what is asked of the service, and what it answers.
* `stateAfter`, `answers` — any storage after a list of calls, and what it answers to them.
* `Store.after`, `Store.states` — the store after a list of calls, and the stores on the way.
* `Store.answered` — the calls of a list, each with its answer.
* `Write`, `Store.writes` — the writes of a run that succeeded.

## Main statements

* `Call.steps` — what a call does to a sound store.
-/

namespace Chronicle

/-- What is asked of the service. -/
inductive Request where
  /-- Creates an entity. -/
  | create (kind attributes : Value) (actor : Option Actor)
  /-- Overwrites attributes of an entity. -/
  | update (kind : Value) (id : Int) (changes : Attributes) (actor : Option Actor)
  /-- Asks for an entity. -/
  | get (kind : Value) (id : Int)
  /-- Asks for the modifications of an entity. -/
  | auditTrail (kind : Value) (id : Int)
  /-- Asks for the ordering at a moment. -/
  | reconstructAt (kind : Value) (moment : Moment) (name : Option String)
  /-- Asks for what changed between two moments. -/
  | movements (kind : Value) (source target : Moment) (name : Option String)

namespace Request

/-- Whether a request asks for a new entity. -/
def isCreate : Request → Bool
  | create .. => true
  | _ => false

/-- Whether a request asks for a change of an entity. -/
def isUpdate : Request → Bool
  | update .. => true
  | _ => false

/-- Whom a write is to be attributed to. -/
def actor? : Request → Option Actor
  | create _ _ actor | update _ _ _ actor => actor
  | _ => none

end Request

/-- What the service answers. -/
inductive Response where
  | entity (e : Entity)
  | trail (entries : List Modification)
  | rows (rows : List HistoricalRow)
  | movements (found : Movements)

/-- A request with the reading of the service's clock. -/
structure Call where
  request : Request
  clock : Moment

/-! ## Calls on any storage -/

section Calls

variable {σ : Type} [UnitOfWork σ]

/-- Carries out a call. -/
def Call.perform (c : Call) : Operation σ Response :=
  match c.request with
  | .create kind attributes actor => .entity <$> Service.create kind attributes actor c.clock
  | .update kind id changes actor => .entity <$> Service.update kind id changes actor c.clock
  | .get kind id => .entity <$> Service.get kind id
  | .auditTrail kind id => .trail <$> Service.auditTrail kind id
  | .reconstructAt kind moment name => .rows <$> Service.reconstructAt kind moment name
  | .movements kind source target name => .movements <$> Service.movements kind source target name

/-- The storage after a call. -/
def Call.step (c : Call) (u : σ) : σ := (c.perform u).state

/-- A storage after a list of calls. -/
def stateAfter (u : σ) (calls : List Call) : σ := calls.foldl (fun v c => c.step v) u

/-- What a storage answers to a list of calls. -/
def answers (u : σ) : List Call → List (Except Error Response)
  | [] => []
  | c :: rest => (c.perform u).result :: answers (c.step u) rest

theorem Call.step_of_perform {α : Type} {c : Call} {f : α → Response} {x : Operation σ α}
    (h : c.perform = f <$> x) (u : σ) : c.step u = (x u).state := by
  rw [step, h, Operation.map_state]

theorem stateAfter_cons (u : σ) (c : Call) (calls : List Call) :
    stateAfter u (c :: calls) = stateAfter (c.step u) calls := rfl

end Calls

/-! ## Runs in memory -/

/-- The store after a list of calls. -/
def Store.after (s : Store) (calls : List Call) : Store := stateAfter s calls

/-- The stores that a list of calls passes through, the first and the last included. -/
def Store.states (s : Store) : List Call → List Store
  | [] => [s]
  | c :: rest => s :: states (c.step s) rest

/-- The calls of a list, each with its answer. -/
def Store.answered (s : Store) (calls : List Call) : List (Call × Except Error Response) :=
  calls.zip (answers s calls)

/-! ## Writes -/

/-- A write that succeeded: the call, the store that it found, and the entity that it returned. -/
structure Write where
  call : Call
  source : Store
  entity : Entity

namespace Write

/-- The entity as the write found it. -/
def before (w : Write) : Option Entity := w.source.find? w.entity.kind w.entity.id

/-- Whether a write is of an entity. -/
def concerns (w : Write) (kind : Kind) (id : Int) : Bool := kind = w.entity.kind ∧ id = w.entity.id

end Write

/-- The write that a call is, if it is one and succeeds. -/
def Call.write? (c : Call) (s : Store) : Option Write :=
  if c.request.isCreate || c.request.isUpdate then
    match (c.perform s).result with
    | .ok (.entity e) => some ⟨c, s, e⟩
    | _ => none
  else none

/-- The writes of a list of calls that succeed. -/
def Store.writes (s : Store) : List Call → List Write
  | [] => []
  | c :: rest => (c.write? s).toList ++ writes (c.step s) rest

namespace Store

theorem after_cons (s : Store) (c : Call) (calls : List Call) :
    s.after (c :: calls) = (c.step s).after calls := rfl

theorem answered_cons (s : Store) (c : Call) (calls : List Call) :
    s.answered (c :: calls) = (c, (c.perform s).result) :: (c.step s).answered calls := rfl

theorem after_append (s : Store) (calls more : List Call) :
    s.after (calls ++ more) = (s.after calls).after more := List.foldl_append ..

theorem writes_append (s : Store) (calls more : List Call) :
    s.writes (calls ++ more) = s.writes calls ++ (s.after calls).writes more := by
  induction calls generalizing s with
  | nil => rfl
  | cons c rest ih =>
    rw [List.cons_append, writes, ih, writes, List.append_assoc]
    rfl

/-- The calls of the writes are calls of the run, in the same order. -/
theorem writes_sublist (s : Store) (calls : List Call) :
    ((s.writes calls).map Write.call).Sublist calls := by
  induction calls generalizing s with
  | nil => exact .slnil
  | cons c rest ih =>
    have hwrite : ∀ w, c.write? s = some w → w.call = c := by
      intro w hw
      unfold Call.write? at hw
      split at hw
      · split at hw
        · cases hw
          rfl
        · cases hw
      · cases hw
    rw [writes]
    cases hc : c.write? s with
    | none => exact (ih _).cons c
    | some w =>
      rw [Option.toList_some, List.singleton_append, List.map_cons, hwrite w hc]
      exact (ih _).cons_cons c

end Store

/-- A demon that is created, leaves the list and comes back to it. -/
def sampleRun : List Call := [
  { request := .create (.text "demon") (.object [
      ("name", .text "Bloodbath"), ("position", .int 3), ("requirement", .int 50),
      ("verifier", .int 10), ("publisher", .int 11), ("difficulty", .text "extreme")])
      (some ⟨7, none⟩)
    clock := .naive ⟨10, by decide⟩ },
  { request := .update (.text "demon") 1 ⟨[("position", .int (-1))]⟩ (some ⟨7, none⟩)
    clock := .naive ⟨20, by decide⟩ },
  { request := .update (.text "demon") 1 ⟨[("position", .int 5)]⟩ (some ⟨7, none⟩)
    clock := .naive ⟨30, by decide⟩ }]

/-! ## What a call does -/

namespace Call

open Service

/-- A call that fails is no write. -/
theorem write?_of_error {c : Call} {s : Store} {e : Error} (h : (c.perform s).result = .error e) :
    c.write? s = none := by
  simp [write?, h]

/-- What a call does to a store: it creates an entity, it updates one, or it leaves entities and
logs as they were. -/
inductive Steps (c : Call) (s : Store) : Prop
  | created {kind : Kind} {attributes : Attributes} {actor : Actor} {now : WallTime}
      (hrequest : c.request.isCreate = true) (hactor : c.request.actor? = some actor)
      (hnow : c.clock.utc = .ok now) (hnormal : kind.Normal attributes)
      (hwrite : c.write? s = some ⟨c, s, newEntity s kind attributes⟩)
      (hstep : c.step s = s.withCreated (newEntity s kind attributes)
        (newAddition (newEntity s kind attributes) actor now))
  | updated {before : Entity} {attributes : Attributes} {actor : Actor} {now : WallTime}
      (hrequest : c.request.isUpdate = true) (hactor : c.request.actor? = some actor)
      (hnow : c.clock.utc = .ok now) (hnormal : before.kind.Normal attributes)
      (hbefore : s.find? before.kind before.id = some before)
      (hwrite : c.write? s = some ⟨c, s, { before with attributes }⟩)
      (hstep : c.step s = s.withUpdated { before with attributes }
        (newModification before { before with attributes } actor now))
  | unchanged (hwrite : c.write? s = none) (hstep : s.SpentFrom (c.step s))

/-- What every snapshot keeps, every call keeps that does not write. -/
theorem perform_keeps {σ : Type} [UnitOfWork σ] {E : σ → σ → Prop} (hE : KeptBySnapshots E)
    {c : Call} (hc : (c.request.isCreate || c.request.isUpdate) = false) :
    (c.perform : Operation σ Response).Keeps E := by
  obtain ⟨request, clock⟩ := c
  cases request with
  | create => cases hc
  | update => cases hc
  | get kind id => exact .map hE _ (get_keeps hE kind id)
  | auditTrail kind id => exact .map hE _ (auditTrail_keeps hE kind id)
  | reconstructAt kind moment name => exact .map hE _ (reconstructAt_keeps hE kind moment name)
  | movements kind source target name =>
    exact .map hE _ (movements_keeps hE kind source target name)

theorem steps_of_read {c : Call} (hc : (c.request.isCreate || c.request.isUpdate) = false)
    (s : Store) : c.Steps s := by
  refine .unchanged ?_ ?_
  · rw [write?, hc]
    rfl
  · rw [step, perform_keeps keptBySnapshots_store hc s]
    exact .refl s

/-- What a call does to a sound store. -/
theorem steps {s : Store} (hs : s.Sound) (c : Call) : c.Steps s := by
  obtain ⟨request, clock⟩ := c
  cases request with
  | create kindValue input actor? =>
    rcases create_cases hs kindValue input actor? clock with
      ⟨kind, attributes, actor, now, -, hvalid, hactor, hnow, hresult, hstate⟩ |
      ⟨e, -, hresult, hstate⟩
    · refine .created rfl hactor hnow (Kind.normal_of_validate hvalid) ?_ ?_
      · simp [write?, perform, Request.isCreate, hresult]
      · exact (step_of_perform rfl s).trans hstate
    · refine .unchanged ?_ ?_
      · simp [write?, perform, Request.isCreate, hresult]
      · rw [step, perform, Operation.map_state]
        exact hstate
  | update kindValue id changes actor? =>
    rcases update_cases hs kindValue id changes actor? clock with
      ⟨before, attributes, actor, now, -, -, hbefore, hvalid, hactor, hnow, hresult, hstate⟩ |
      ⟨e, -, hresult, hstate⟩
    · refine .updated rfl hactor hnow (Kind.normal_of_validate hvalid) hbefore ?_ ?_
      · simp [write?, perform, Request.isUpdate, hresult]
      · exact (step_of_perform rfl s).trans hstate
    · refine .unchanged ?_ ?_
      · simp [write?, perform, Request.isUpdate, hresult]
      · rw [step, perform, Operation.map_state, hstate]
        exact .refl s
  | get | auditTrail | reconstructAt | movements => exact steps_of_read rfl s

end Call

end Chronicle
