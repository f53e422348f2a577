import Chronicle.Proofs.Relational.Representation
import Chronicle.Proofs.Relational.Transactions

/-!
# Both storages agree on writes

A store in memory and the store of rows that is seen through a session are kept together by every
call that creates, updates or gets an entity. So a run of such calls is answered alike by both
storages, and leaves the same log entries in the same order.

## Main definitions

* `Mirrors` — whether what is seen through a session represents a store.
* `Agrees` — whether both storages answer a call alike and are still together afterwards.
* `Call.OfEntity` — calls that create, update or get an entity.

## Main statements

* `Mirrors.creation`, `Mirrors.alteration` — the units of work of the two writes.
* `agrees_create`, `agrees_update`, `agrees_get` — one call on both storages.
* `run_agrees` — a list of calls on both storages.
* `storages_agree` — runs from empty storages.
-/

namespace Chronicle

/-! ## Runs of calls that concern one entity -/

/-- Whether a call creates, updates or gets an entity. -/
def Request.isOfEntity : Request → Bool
  | create .. | update .. | get .. => true
  | _ => false

/-- Whether a call creates, updates or gets an entity, at a moment of the calendar. -/
structure Call.OfEntity (c : Call) : Prop where
  request : c.request.isOfEntity = true
  clock : ∃ now, c.clock.utc = .ok now

namespace Relational

open Service

/-! ## Storages that are kept together -/

variable {σ : Type} {view : σ → RowStore} {ws : List Write} {s : Store} {t : RelationalStore σ}

/-- Whether what is seen through the session of a storage is committed and represents a store that
writes have led to. -/
structure Mirrors (view : σ → RowStore) (ws : List Write) (s : Store) (t : RelationalStore σ) :
    Prop where
  settled : (view t.session).Settled
  represents : (view t.session).current.Represents ws s

/-- A session through which an empty store is seen mirrors the empty store. -/
theorem mirrors_empty (ht : view t.session = .empty) : Mirrors view [] .empty t := by
  refine ⟨?_, ?_⟩
  · exact ht ▸ RowStore.settled_empty
  · exact ht ▸ Contents.represents_empty

/-- What is committed mirrors the store that it represents. -/
theorem mirrors_of_commit {d : RowStore} (ht : view t.session = d.commit) (hd : d.pending = [])
    (h : d.current.Represents ws s) : Mirrors view ws s t := by
  refine ⟨?_, ?_⟩
  · exact ht ▸ d.settled_commit
  · rw [ht, RowStore.commit, RowStore.flush_eq_self hd]
    exact h

variable [Session σ]

/-! ## The units of work of the two writes -/

namespace Mirrors

variable {c : Chronicle.Call} {kind : Kind} {attributes : Attributes} {actor : Actor}
  {clock : Moment} {now : WallTime}

/-- The transaction of a creation comes to the new entity and keeps both storages together. -/
theorem creation (ht : Mirrors view ws s t) (hview : Faithful view) (h : Ledger ws s)
    (hnormal : kind.Normal attributes) (hactor : c.request.actor? = some actor)
    (hnow : c.clock.utc = .ok now) :
    let e := newEntity s kind attributes
    let last := Operation.within .transaction (Service.creation kind attributes actor c.clock) t
    last.result = .ok e ∧
      Mirrors view (ws ++ [⟨c, s, e⟩]) (s.withCreated e (newAddition e actor now)) last.state := by
  intro e last
  let w : Write := ⟨c, s, e⟩
  have hblock := hview.creation ht.settled.pending hnormal hnow actor
  rw [ht.represents.nextIds] at hblock
  obtain ⟨hresult, hsession⟩ := RelationalStore.within_of_ok .transaction hview hblock
  obtain ⟨-, haddition, hmodification⟩ := h.created_entries kind attributes hactor hnow
  have hrepresents := ht.represents.created (w := w) (h.find?_nextId kind) hnormal rfl haddition
    hmodification
  exact ⟨hresult, mirrors_of_commit hsession ht.settled.pending hrepresents⟩

/-- The transaction of an update comes to the changed entity and keeps both storages together. -/
theorem alteration (ht : Mirrors view ws s t) (hview : Faithful view) {before : Entity}
    {changes : Attributes} (hbefore : s.find? before.kind before.id = some before)
    (hattributes : before.kind.validate (before.attributes.merge changes).toValue = .ok attributes)
    (hactor : c.request.actor? = some actor) (hnow : c.clock.utc = .ok now) :
    let after := { before with attributes }
    let entry := newModification before after actor now
    let block := Service.alteration before.kind before.id changes actor c.clock
    let last := Operation.within .transaction block t
    last.result = .ok (after, entry) ∧
      Mirrors view (ws ++ [⟨c, s, after⟩]) (s.withUpdated after entry) last.state := by
  intro after entry block last
  let w : Write := ⟨c, s, after⟩
  have hfound := ht.represents.entities before.kind before.id
  rw [hbefore] at hfound
  have hblock := hview.alteration ht.settled.pending hfound hattributes hnow actor
  obtain ⟨hresult, hsession⟩ := RelationalStore.within_of_ok .transaction hview hblock
  obtain ⟨-, haddition, hmodification⟩ := Ledger.updated_entries hbefore attributes hactor hnow
  have hrepresents := ht.represents.updated (w := w) hbefore (Kind.normal_of_validate hattributes)
    rfl haddition hmodification
  exact ⟨hresult, mirrors_of_commit hsession ht.settled.pending hrepresents⟩

/-- The transaction of an update that cannot be carried out changes nothing. -/
theorem alteration_error (ht : Mirrors view ws s t) (hview : Faithful view) {id : Int}
    {changes : Attributes} {e : Error} (he : alteredEntity s kind id changes clock = .error e)
    (actor : Actor) :
    let last :=
      Operation.within .transaction (Service.alteration kind id changes actor clock) t
    last.result = .error e ∧ view last.state.session = view t.session := by
  have hfound := ht.represents.entities kind id
  have hblock := hview.alteration_error ht.settled.pending hfound he actor
  obtain ⟨hresult, hdiscards⟩ := RelationalStore.within_of_error .transaction hview hblock
  -- The block has only read, so there is nothing to take back.
  exact ⟨hresult, ht.settled.eq_of_discards hdiscards⟩

end Mirrors

/-! ## One call on both storages -/

/-- Whether both storages answer a call alike and are still together afterwards. -/
structure Agrees (view : σ → RowStore) (ws : List Write) (s : Store) (t : RelationalStore σ)
    (c : Chronicle.Call) : Prop where
  result : (c.perform t).result = (c.perform s).result
  mirrors : Mirrors view (ws ++ (c.write? s).toList) (c.step s) (c.step t)

section Calls

variable {c : Chronicle.Call} {x : Operation Store Entity}
  {y : Operation (RelationalStore σ) Entity}

/-- A call that both storages answer alike and that changes neither. -/
theorem agrees_of_unchanged (ht : Mirrors view ws s t) (hx : c.perform = .entity <$> x)
    (hy : c.perform = .entity <$> y) (hwrite : c.write? s = none)
    (hresult : (y t).result = (x s).result) (hs : (x s).state = s)
    (hu : view (y t).state.session = view t.session) : Agrees view ws s t c := by
  have hstep : c.step s = s := (Call.step_of_perform hx s).trans hs
  have hview : view (c.step t).session = view t.session := by rw [Call.step_of_perform hy, hu]
  refine ⟨?_, ?_⟩
  · rw [hx, hy, Operation.map_result, Operation.map_result, hresult]
  · rw [hwrite, hstep, Option.toList_none, List.append_nil]
    exact ⟨hview ▸ ht.settled, hview ▸ ht.represents⟩

/-- A call that fails alike on both storages and changes neither. -/
theorem agrees_of_error (ht : Mirrors view ws s t) (hx : c.perform = .entity <$> x)
    (hy : c.perform = .entity <$> y) {e : Error} (hs : (x s).result = .error e ∧ (x s).state = s)
    (hu : (y t).result = .error e ∧ view (y t).state.session = view t.session) :
    Agrees view ws s t c := by
  refine agrees_of_unchanged ht hx hy (Call.write?_of_error (e := e) ?_) ?_ hs.2 hu.2
  · rw [hx, Operation.map_result, hs.1]
    rfl
  · rw [hu.1, hs.1]

/-- A write that succeeds alike on both storages and keeps them together. -/
theorem agrees_of_written (hx : c.perform = .entity <$> x) (hy : c.perform = .entity <$> y)
    (hrequest : (c.request.isCreate || c.request.isUpdate) = true) {e : Entity} {s' : Store}
    (hs : (x s).result = .ok e ∧ (x s).state = s')
    (hu : (y t).result = .ok e ∧ Mirrors view (ws ++ [⟨c, s, e⟩]) s' (y t).state) :
    Agrees view ws s t c := by
  have hanswer : (c.perform s).result = .ok (.entity e) := by
    rw [hx, Operation.map_result, hs.1, map_ok]
  have hwrite : c.write? s = some ⟨c, s, e⟩ := by
    rw [Call.write?, if_pos hrequest, hanswer]
  have hstep : c.step s = s' := (Call.step_of_perform hx s).trans hs.2
  refine ⟨?_, ?_⟩
  · rw [hanswer, hy, Operation.map_result, hu.1, map_ok]
  · rw [hwrite, hstep, Call.step_of_perform hy]
    exact hu.2

end Calls

/-- A creation is answered alike. -/
theorem agrees_create (hview : Faithful view) (h : Ledger ws s) (ht : Mirrors view ws s t)
    (kindValue input : Value) (actor? : Option Actor) {clock : Moment} {now : WallTime}
    (hnow : clock.utc = .ok now) :
    Agrees view ws s t ⟨.create kindValue input actor?, clock⟩ := by
  let c : Chronicle.Call := ⟨.create kindValue input actor?, clock⟩
  rcases create_alike kindValue input actor? clock with
    ⟨kind, attributes, actor, -, hvalid, hactor, halike⟩ | ⟨e, -, halike⟩
  · obtain ⟨hanswer, hmirrors⟩ :=
      ht.creation (c := c) hview h (Kind.normal_of_validate hvalid) hactor hnow
    have hs := halike s
    have hu := halike t
    rw [within_creation h.sound kind attributes actor hnow] at hs
    rw [hanswer] at hu
    rw [← hu.2] at hmirrors
    exact agrees_of_written rfl rfl rfl hs ⟨hu.1, hmirrors⟩
  · exact agrees_of_error ht rfl rfl (halike s) ⟨(halike t).1, by rw [(halike t).2]; rfl⟩

/-- An update is answered alike. -/
theorem agrees_update (hview : Faithful view) (h : Ledger ws s) (ht : Mirrors view ws s t)
    (kindValue : Value) (id : Int) (changes : Attributes) (actor? : Option Actor) (clock : Moment) :
    Agrees view ws s t ⟨.update kindValue id changes actor?, clock⟩ := by
  let c : Chronicle.Call := ⟨.update kindValue id changes actor?, clock⟩
  rcases update_alike kindValue id changes actor? clock with
    ⟨kind, actor, -, hactor, halike⟩ | ⟨e, -, halike⟩
  · have hs := halike s
    have hu := halike t
    rw [Operation.map_result, Operation.map_state] at hs hu
    rcases exec_alteration_cases s kind id changes actor clock with
      ⟨before, attributes, now, hbefore, hattributes, hnow⟩ | ⟨e, hfailed, he⟩
    · obtain rfl := h.sound.filed kind id before hbefore
      obtain rfl := EntityTable.id_of_get? hbefore
      obtain ⟨hanswer, hmirrors⟩ := ht.alteration (c := c) hview hbefore hattributes hactor hnow
      rw [within_alteration h.sound actor hbefore hattributes hnow] at hs
      rw [hanswer, map_ok] at hu
      rw [← hu.2] at hmirrors
      exact agrees_of_written rfl rfl rfl hs ⟨hu.1, hmirrors⟩
    · obtain ⟨hanswer, hview⟩ := ht.alteration_error hview hfailed actor
      rw [Operation.within_of_error he] at hs
      rw [hanswer] at hu
      rw [← hu.2] at hview
      exact agrees_of_error ht rfl rfl hs ⟨hu.1, hview⟩
  · exact agrees_of_error ht rfl rfl (halike s) ⟨(halike t).1, by rw [(halike t).2]; rfl⟩

/-- A request for an entity of no kind fails, on every storage. -/
theorem get_of_unknown {τ : Type} [UnitOfWork τ] {kindValue : Value} (id : Int) {e : Error}
    (hkind : Kind.ofValue kindValue = .error e) (u : τ) :
    (Service.get kindValue id u).result = .error e ∧ (Service.get kindValue id u).state = u := by
  unfold Service.get
  rw [hkind]
  exact ⟨rfl, rfl⟩

/-- What a request for an entity answers, on every storage. -/
theorem get_of_found {τ : Type} [UnitOfWork τ] {u : τ} {kindValue : Value} {kind : Kind} {id : Int}
    {found : Option Entity} (hkind : Kind.ofValue kindValue = .ok kind)
    (hfound : (Operation.within .snapshot (Block.perform (.getEntity kind id false)) u).result =
      .ok found) :
    (Service.get kindValue id u).result = found.elim (.error (.unknownEntity kind.name id)) .ok ∧
      (Service.get kindValue id u).state =
        (Operation.within .snapshot (Block.perform (.getEntity kind id false)) u).state := by
  unfold Service.get
  rw [hkind, Operation.lift_bind_ok, Operation.bind_result, Operation.bind_state, hfound]
  cases found with
  | none => exact ⟨rfl, rfl⟩
  | some e => exact ⟨rfl, rfl⟩

/-- A request for an entity is answered alike. -/
theorem agrees_get (hview : Faithful view) (ht : Mirrors view ws s t) (kindValue : Value)
    (id : Int) (clock : Moment) : Agrees view ws s t ⟨.get kindValue id, clock⟩ := by
  cases hkind : Kind.ofValue kindValue with
  | error e =>
    have hu := get_of_unknown id hkind t
    exact agrees_of_error ht rfl rfl (get_of_unknown id hkind s) ⟨hu.1, by rw [hu.2]⟩
  | ok kind =>
    have hblock := hview.perform_getEntity ht.settled.pending (ht.represents.entities kind id) true
    obtain ⟨hanswer, hsession⟩ := RelationalStore.within_of_ok .snapshot hview hblock
    have hresult := Operation.within_snapshot_result (Block.perform (.getEntity kind id false)) s
    rw [Staging.exec_getEntity] at hresult
    obtain ⟨hs, hstate⟩ := get_of_found hkind hresult
    obtain ⟨hu, hstate'⟩ := get_of_found hkind hanswer
    refine agrees_of_unchanged ht rfl rfl rfl (hu.trans hs.symm) ?_ ?_
    · rw [hstate, Operation.within_snapshot_state]
    · exact (congrArg (view ·.session) hstate').trans (hsession.trans ht.settled.commit_eq)

/-! ## Runs on both storages -/

/-- A call that creates, updates or gets an entity is answered alike. -/
theorem agrees_of_ofEntity (hview : Faithful view) (h : Ledger ws s) (ht : Mirrors view ws s t)
    {c : Chronicle.Call} (hc : c.OfEntity) : Agrees view ws s t c := by
  obtain ⟨request, clock⟩ := c
  obtain ⟨hrequest, now, hnow⟩ := hc
  cases request with
  | create kindValue input actor? => exact agrees_create hview h ht kindValue input actor? hnow
  | update kindValue id changes actor? =>
    exact agrees_update hview h ht kindValue id changes actor? clock
  | get kindValue id => exact agrees_get hview ht kindValue id clock
  | auditTrail | reconstructAt | movements => cases hrequest

/-- Such calls are answered alike one after another, and leave the storages together. -/
theorem run_agrees (hview : Faithful view) {calls : List Chronicle.Call}
    (hcalls : ∀ c ∈ calls, c.OfEntity) (h : Ledger ws s) (ht : Mirrors view ws s t) :
    answers t calls = answers s calls ∧
      Mirrors view (ws ++ s.writes calls) (s.after calls) (stateAfter t calls) := by
  -- The ledger goes along with the mirror: it tells that the next id of a kind is still free.
  induction calls generalizing ws s t with
  | nil =>
    refine ⟨rfl, ?_⟩
    rw [Store.writes, List.append_nil]
    exact ht
  | cons c rest ih =>
    obtain ⟨hc, hrest⟩ := List.forall_mem_cons.1 hcalls
    obtain ⟨hresult, hmirrors⟩ := agrees_of_ofEntity hview h ht hc
    obtain ⟨hanswers, hlast⟩ := ih hrest (h.step c) hmirrors
    refine ⟨?_, ?_⟩
    · rw [answers, answers, hresult, hanswers]
    · rw [Store.writes, ← List.append_assoc]
      exact hlast

/-- Both storages agree on writes. Through a session that is faithful to a store of rows, empty at
first, calls that create, update or get entities, at moments of the calendar, are answered exactly
as in memory, with the same entities and the same failures. The entries that the writes have
appended in memory, in the order of the writes, make up the logs, and the committed rows of the log
tables are those of the same entries in the same order. -/
theorem storages_agree (hview : Faithful view) (ht : view t.session = .empty)
    {calls : List Chronicle.Call} (hcalls : ∀ c ∈ calls, c.OfEntity) :
    let s := Store.empty.after calls
    let ws := Store.empty.writes calls
    let contents := (view (stateAfter t calls).session).committed
    answers t calls = answers Store.empty calls ∧
    Staging.appendAll ModificationLog.append .empty (ws.filterMap Write.modification?) =
      (s.modifications, none) ∧
    Staging.appendAll AdditionLog.append .empty (ws.filterMap Write.addition?) =
      (s.additions, none) ∧
    ∀ kind,
      List.Forall₂ Modification.RecordedBy (entriesOf Write.modification? kind ws)
        (contents.rows (.modifications kind)) ∧
      List.Forall₂ Addition.RecordedBy (entriesOf Write.addition? kind ws)
        (contents.rows (.additions kind)) := by
  intro s ws contents
  have h := ledger_of_run calls
  obtain ⟨hanswers, hmirrors⟩ := run_agrees hview hcalls .empty (mirrors_empty ht)
  have hcontents : contents = (view (stateAfter t calls).session).current :=
    hmirrors.settled.committed
  refine ⟨hanswers, h.appendAll_modifications, h.appendAll_additions, fun kind => ?_⟩
  rw [hcontents]
  exact ⟨hmirrors.represents.modifications kind, hmirrors.represents.additions kind⟩

theorem storages_agree_sampleRun :
    let t : RelationalStore RowStore := ⟨.empty, "REPEATABLE READ"⟩
    let s := Store.empty.after sampleRun
    let ws := Store.empty.writes sampleRun
    let contents := (stateAfter t sampleRun).session.committed
    Faithful (id : RowStore → RowStore) ∧ (∀ c ∈ sampleRun, c.OfEntity) ∧
    answers t sampleRun = answers Store.empty sampleRun ∧
    Staging.appendAll ModificationLog.append .empty (ws.filterMap Write.modification?) =
      (s.modifications, none) ∧
    Staging.appendAll AdditionLog.append .empty (ws.filterMap Write.addition?) =
      (s.additions, none) ∧
    ∀ kind,
      List.Forall₂ Modification.RecordedBy (entriesOf Write.modification? kind ws)
        (contents.rows (.modifications kind)) ∧
      List.Forall₂ Addition.RecordedBy (entriesOf Write.addition? kind ws)
        (contents.rows (.additions kind)) := by
  have hcalls : ∀ c ∈ sampleRun, c.OfEntity := by
    simp only [sampleRun, List.forall_mem_cons]
    exact ⟨⟨rfl, _, rfl⟩, ⟨rfl, _, rfl⟩, ⟨rfl, _, rfl⟩, List.forall_mem_nil _⟩
  exact ⟨faithful_id, hcalls, storages_agree faithful_id rfl hcalls⟩

end Relational

end Chronicle
