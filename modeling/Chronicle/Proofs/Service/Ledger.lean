import Chronicle.Proofs.Service.Run

/-!
# The ledger of a run

The successful writes of a run account for its store: every entity is as its last write left it, the
logs hold one entry for every write, and the writes of one entity follow on each other, a creation
first.

## Main definitions

* `Write.addition?`, `Write.modification?` — the log entry of a write.
* `life` — the writes of one entity.
* `finalOf`, `Follow` — what a list of writes of one entity leaves, and whether each found what the
  one before it left.
* `Ledger` — writes that account for a store.

## Main statements

* `Ledger.step` — a call extends the ledger by its write.
* `Ledger.exists_life`, `Ledger.exists_addition` — the writes and the addition of a live entity.
* `ledger_of_run` — the writes of a run account for its store.
-/

namespace Chronicle

open Service

namespace Write

/-- The addition that a write leaves: that of an entity that it did not find. -/
def addition? (w : Write) : Option Addition :=
  match w.before with
  | some _ => none
  | none => do
    let actor ← w.call.request.actor?
    let now ← w.call.clock.utc.toOption
    return newAddition w.entity actor now

/-- The modification that a write leaves: that of an entity that it found. -/
def modification? (w : Write) : Option Modification := do
  let before ← w.before
  let actor ← w.call.request.actor?
  let now ← w.call.clock.utc.toOption
  return newModification before w.entity actor now

/-- Whether a write is attributed, at a moment of the calendar, a creation exactly if it did not
find its entity, and whether it left the entity that it returned, with normal attributes. -/
structure Valid (w : Write) : Prop where
  attributed : ∃ actor now, w.call.request.actor? = some actor ∧ w.call.clock.utc = .ok now
  normal : w.entity.kind.Normal w.entity.attributes
  created : w.before = none → w.call.request.isCreate = true
  updated : ∀ e, w.before = some e → w.call.request.isUpdate = true
  left : (w.call.step w.source).find? w.entity.kind w.entity.id = some w.entity

/-- The modification of a write, part by part. -/
theorem modification?_eq_some {w : Write} {m : Modification} :
    w.modification? = some m ↔ ∃ before actor now, w.before = some before ∧
      w.call.request.actor? = some actor ∧ w.call.clock.utc = .ok now ∧
      newModification before w.entity actor now = m := by
  cases hbefore : w.before <;> cases hactor : w.call.request.actor? <;>
    cases hnow : w.call.clock.utc <;>
    simp [modification?, hbefore, hactor, hnow, Except.toOption]

/-- The addition of a write, part by part. -/
theorem addition?_eq_some {w : Write} {a : Addition} :
    w.addition? = some a ↔ ∃ actor now, w.before = none ∧
      w.call.request.actor? = some actor ∧ w.call.clock.utc = .ok now ∧
      newAddition w.entity actor now = a := by
  cases hbefore : w.before <;> cases hactor : w.call.request.actor? <;>
    cases hnow : w.call.clock.utc <;>
    simp [addition?, hbefore, hactor, hnow, Except.toOption]

/-- A write that found its entity leaves a modification with what it overwrote. -/
theorem Valid.exists_modification {w : Write} (hw : w.Valid) {e : Entity}
    (hbefore : w.before = some e) :
    ∃ m, w.modification? = some m ∧ m.entityId = w.entity.id ∧
      m.diffs = e.attributes.diff w.entity.attributes w.entity.kind.tracked := by
  obtain ⟨actor, now, hactor, hnow⟩ := hw.attributed
  exact ⟨_, modification?_eq_some.2 ⟨e, actor, now, hbefore, hactor, hnow, rfl⟩, rfl, rfl⟩

end Write

/-! ## The writes of one entity -/

/-- The writes of one entity. -/
def life (ws : List Write) (kind : Kind) (id : Int) : List Write := ws.filter (·.concerns kind id)

/-- The entity after writes of it. -/
def finalOf (e : Option Entity) (ws : List Write) : Option Entity :=
  ws.foldl (fun _ w => some w.entity) e

/-- Whether each write found what the one before it left. -/
def Follow : Option Entity → List Write → Prop
  | _, [] => True
  | e, w :: rest => w.before = e ∧ Follow (some w.entity) rest

@[simp] theorem finalOf_append (e : Option Entity) (ws vs : List Write) :
    finalOf e (ws ++ vs) = finalOf (finalOf e ws) vs := List.foldl_append ..

theorem follow_append {e : Option Entity} {ws vs : List Write} :
    Follow e (ws ++ vs) ↔ Follow e ws ∧ Follow (finalOf e ws) vs := by
  induction ws generalizing e with
  | nil => simp [Follow, finalOf]
  | cons w rest ih =>
    rw [List.cons_append, Follow, Follow, ih, and_assoc]
    rfl

theorem exists_mem_of_finalOf {e : Entity} {ws : List Write} (h : finalOf none ws = some e) :
    ∃ w ∈ ws, w.entity = e := by
  induction ws using List.reverseRecOn with
  | nil => cases h
  | append_singleton ws w _ =>
    rw [finalOf_append] at h
    cases h
    exact ⟨w, by simp, rfl⟩

theorem exists_cons_of_finalOf {e : Entity} {ws : List Write} (h : finalOf none ws = some e) :
    ∃ w rest, ws = w :: rest := by
  cases ws with
  | nil => cases h
  | cons w rest => exact ⟨w, rest, rfl⟩

theorem exists_finalOf (e : Entity) (ws : List Write) : ∃ f, finalOf (some e) ws = some f := by
  induction ws generalizing e with
  | nil => exact ⟨e, rfl⟩
  | cons w rest ih => exact ih w.entity

/-- Every write but a first creation found its entity. -/
theorem Follow.exists_before {e : Entity} {ws : List Write} (h : Follow (some e) ws) {w : Write}
    (hw : w ∈ ws) : ∃ f, w.before = some f := by
  induction ws generalizing e with
  | nil => cases hw
  | cons v rest ih =>
    rcases List.mem_cons.1 hw with rfl | hw
    · exact ⟨e, h.1⟩
    · exact ih h.2 hw

@[simp] theorem life_append (ws vs : List Write) (kind : Kind) (id : Int) :
    life (ws ++ vs) kind id = life ws kind id ++ life vs kind id := List.filter_append ..

theorem life_singleton (w : Write) (kind : Kind) (id : Int) :
    life [w] kind id = if kind = w.entity.kind ∧ id = w.entity.id then [w] else [] := by
  simp only [life, Write.concerns, List.filter_cons, List.filter_nil, decide_eq_true_eq]

theorem mem_life {ws : List Write} {w : Write} {kind : Kind} {id : Int} :
    w ∈ life ws kind id ↔ w ∈ ws ∧ kind = w.entity.kind ∧ id = w.entity.id := by
  simp [life, Write.concerns]

/-! ## Entries of one kind -/

/-- The entries that writes of a kind leave, in the order of the writes. -/
def entriesOf {α : Type} (found? : Write → Option α) (kind : Kind) (ws : List Write) : List α :=
  (ws.filter (·.entity.kind = kind)).filterMap found?

@[simp] theorem entriesOf_append {α : Type} (found? : Write → Option α) (kind : Kind)
    (ws vs : List Write) :
    entriesOf found? kind (ws ++ vs) = entriesOf found? kind ws ++ entriesOf found? kind vs := by
  simp [entriesOf]

theorem entriesOf_singleton {α : Type} (found? : Write → Option α) (kind : Kind) (w : Write) :
    entriesOf found? kind [w] = if kind = w.entity.kind then (found? w).toList else [] := by
  by_cases h : kind = w.entity.kind
  · subst h
    cases hw : found? w <;> simp [entriesOf, hw]
  · have hne : ¬ w.entity.kind = kind := fun heq => h heq.symm
    simp [entriesOf, h, hne]

theorem entriesOf_append_none {α : Type} {found? : Write → Option α} {w : Write}
    (hw : found? w = none) (kind : Kind) (ws : List Write) :
    entriesOf found? kind (ws ++ [w]) = entriesOf found? kind ws := by
  rw [entriesOf_append, entriesOf_singleton, hw, Option.toList_none, ite_self, List.append_nil]

/-- A write that leaves an entry puts it in its place among those of its kind. -/
theorem arranged_append_some {α : Type} {stamp : α → Moment} {found? : Write → Option α} {w : Write}
    {x : α} (hw : found? w = some x) (kind : Kind) (ws : List Write) :
    Timeline.arranged stamp (entriesOf found? kind (ws ++ [w])) =
      if kind = w.entity.kind then
        Timeline.place stamp x (Timeline.arranged stamp (entriesOf found? kind ws))
      else Timeline.arranged stamp (entriesOf found? kind ws) := by
  rw [entriesOf_append, entriesOf_singleton, hw, Option.toList_some]
  split
  · exact Timeline.arranged_append_singleton
  · rw [List.append_nil]

theorem mem_entriesOf {α : Type} {found? : Write → Option α} {kind : Kind} {ws : List Write}
    {x : α} :
    x ∈ entriesOf found? kind ws ↔ ∃ w ∈ ws, w.entity.kind = kind ∧ found? w = some x := by
  simp [entriesOf, and_assoc]

theorem Write.entityId_of_modification? {w : Write} {m : Modification}
    (h : w.modification? = some m) : m.entityId = w.entity.id := by
  obtain ⟨before, actor, now, -, -, -, rfl⟩ := Write.modification?_eq_some.1 h
  rfl

theorem Write.kind_of_modification? {w : Write} {m : Modification} (h : w.modification? = some m) :
    m.kind = w.entity.kind := by
  obtain ⟨before, actor, now, -, -, -, rfl⟩ := Write.modification?_eq_some.1 h
  rfl

theorem Write.kind_of_addition? {w : Write} {a : Addition} (h : w.addition? = some a) :
    a.kind = w.entity.kind := by
  obtain ⟨actor, now, -, -, -, rfl⟩ := Write.addition?_eq_some.1 h
  rfl

theorem Write.entityId_of_addition? {w : Write} {a : Addition} (h : w.addition? = some a) :
    a.entityId = w.entity.id := by
  obtain ⟨actor, now, -, -, -, rfl⟩ := Write.addition?_eq_some.1 h
  rfl

/-- The entries of one kind are those that writes of the kind left. -/
theorem filter_filterMap_eq {α : Type} {found? : Write → Option α} {kindOf : α → Kind}
    (hkind : ∀ {w x}, found? w = some x → kindOf x = w.entity.kind) (ws : List Write)
    (kind : Kind) :
    (ws.filterMap found?).filter (kindOf · = kind) = entriesOf found? kind ws := by
  rw [entriesOf, List.filterMap_filter, List.filter_filterMap]
  refine congrArg (List.filterMap · ws) (funext fun w => ?_)
  cases hw : found? w with
  | none => simp
  | some x =>
    have hx := hkind hw
    by_cases h : w.entity.kind = kind
    · simp [Option.filter, hx, h]
    · simp [Option.filter, hx, h]

/-- The entries of one entity are those that its writes left. -/
theorem filter_entriesOf_eq {α : Type} {found? : Write → Option α} {idOf : α → Int}
    (hid : ∀ {w x}, found? w = some x → idOf x = w.entity.id) (ws : List Write) (kind : Kind)
    (id : Int) :
    (entriesOf found? kind ws).filter (idOf · == id) = (life ws kind id).filterMap found? := by
  rw [entriesOf, life, List.filterMap_filter, List.filterMap_filter, List.filter_filterMap]
  refine congrArg (List.filterMap · ws) (funext fun w => ?_)
  cases hw : found? w with
  | none => simp
  | some x =>
    have hx := hid hw
    by_cases hkind : w.entity.kind = kind
    · by_cases heq : w.entity.id = id
      · simp [Write.concerns, hkind, hx, heq]
      · simp [Write.concerns, hkind, hx, heq, Ne.symm heq]
    · simp [Write.concerns, hkind, Ne.symm hkind]

/-- The modifications of one entity are those that its writes left. -/
theorem filter_entriesOf (ws : List Write) (kind : Kind) (id : Int) :
    (entriesOf Write.modification? kind ws).filter (·.entityId == id) =
      (life ws kind id).filterMap Write.modification? :=
  filter_entriesOf_eq Write.entityId_of_modification? ws kind id

/-! ## The ledger -/

/-- Writes that account for a store. -/
structure Ledger (ws : List Write) (s : Store) : Prop where
  sound : s.Sound
  live : ∀ kind id, s.find? kind id = finalOf none (life ws kind id)
  modifications : ∀ kind, s.modifications.ofKind kind =
    Timeline.arranged Modification.timestamp (entriesOf Write.modification? kind ws)
  additions : ∀ kind, s.additions.ofKind kind =
    Timeline.arranged Addition.timestamp (entriesOf Write.addition? kind ws)
  fresh : ∀ w ∈ ws, w.entity.id < s.nextIds.get w.entity.kind
  valid : ∀ w ∈ ws, w.Valid
  follow : ∀ kind id, Follow none (life ws kind id)

namespace Ledger

variable {ws : List Write} {s t : Store} {w : Write}

theorem empty : Ledger [] .empty where
  sound := by
    refine ⟨fun kind id e h => ?_, fun kind => ?_, fun kind => ?_⟩
    · cases kind <;> cases h
    · cases kind <;> exact fun _ hx => absurd hx List.not_mem_nil
    · cases kind <;> exact fun _ hx => absurd hx List.not_mem_nil
  live kind id := by cases kind <;> rfl
  modifications kind := by cases kind <;> rfl
  additions kind := by cases kind <;> rfl
  fresh _ hw := absurd hw List.not_mem_nil
  valid _ hw := absurd hw List.not_mem_nil
  follow _ _ := trivial

theorem spentFrom (h : Ledger ws s) (ht : s.SpentFrom t) : Ledger ws t where
  sound := h.sound.spentFrom ht
  live kind id := by rw [Store.find?, ht.entities]; exact h.live kind id
  modifications kind := by rw [ht.modifications]; exact h.modifications kind
  additions kind := by rw [ht.additions]; exact h.additions kind
  fresh w hw := Int.lt_of_lt_of_le (h.fresh w hw) (ht.nextIds _)
  valid := h.valid
  follow := h.follow

theorem lt_of_find? (h : Ledger ws s) {kind : Kind} {id : Int} {e : Entity}
    (he : s.find? kind id = some e) : id < s.nextIds.get kind := by
  rw [h.live] at he
  obtain ⟨w, hw, -⟩ := exists_mem_of_finalOf he
  obtain ⟨hmem, rfl, rfl⟩ := mem_life.1 hw
  exact h.fresh w hmem

/-- The entities of a store have normal attributes. -/
theorem normal (h : Ledger ws s) {kind : Kind} {id : Int} {e : Entity}
    (he : s.find? kind id = some e) : kind.Normal e.attributes := by
  rw [h.live] at he
  obtain ⟨w, hw, rfl⟩ := exists_mem_of_finalOf he
  obtain ⟨hmem, rfl, -⟩ := mem_life.1 hw
  exact (h.valid w hmem).normal

/-- An entity that was written is live. -/
theorem exists_of_mem (h : Ledger ws s) (hw : w ∈ ws) :
    ∃ e, s.find? w.entity.kind w.entity.id = some e := by
  have hlife : w ∈ life ws w.entity.kind w.entity.id := mem_life.2 ⟨hw, rfl, rfl⟩
  rw [h.live]
  cases hws : life ws w.entity.kind w.entity.id with
  | nil => exact absurd (hws ▸ hlife) List.not_mem_nil
  | cons v rest => exact exists_finalOf v.entity rest

/-- The next id of a kind is no entity's. -/
theorem find?_nextId (h : Ledger ws s) (kind : Kind) :
    s.find? kind (s.nextIds.get kind) = none := by
  cases he : s.find? kind (s.nextIds.get kind) with
  | none => rfl
  | some e => exact absurd (h.lt_of_find? he) (Int.lt_irrefl _)

/-- A store that differs by one write from a store that is accounted for is accounted for with that
write. -/
theorem extend (h : Ledger ws s) (hsound : t.Sound) (hsource : w.source = s) (hvalid : w.Valid)
    (hfind : ∀ kind id, t.find? kind id =
      if kind = w.entity.kind ∧ id = w.entity.id then some w.entity else s.find? kind id)
    (hmodifications : ∀ kind, t.modifications.ofKind kind =
      Timeline.arranged Modification.timestamp (entriesOf Write.modification? kind (ws ++ [w])))
    (hadditions : ∀ kind, t.additions.ofKind kind =
      Timeline.arranged Addition.timestamp (entriesOf Write.addition? kind (ws ++ [w])))
    (hids : ∀ kind, s.nextIds.get kind ≤ t.nextIds.get kind)
    (hfresh : w.entity.id < t.nextIds.get w.entity.kind) : Ledger (ws ++ [w]) t where
  sound := hsound
  live kind id := by
    rw [hfind, life_append, life_singleton, finalOf_append, ← h.live]
    split <;> rfl
  modifications := hmodifications
  additions := hadditions
  fresh := by
    refine List.forall_mem_append.2 ⟨fun v hv => ?_, List.forall_mem_singleton.2 hfresh⟩
    exact Int.lt_of_lt_of_le (h.fresh v hv) (hids _)
  valid := List.forall_mem_append.2 ⟨h.valid, List.forall_mem_singleton.2 hvalid⟩
  follow kind id := by
    rw [life_append, life_singleton]
    refine follow_append.2 ⟨h.follow kind id, ?_⟩
    split
    · rename_i heq
      obtain ⟨rfl, rfl⟩ := heq
      exact ⟨by rw [Write.before, hsource, h.live], trivial⟩
    · trivial

/-- A creation leaves an addition, as its id is fresh. -/
theorem created_entries (h : Ledger ws s) {c : Call} {actor : Actor} {now : WallTime} (kind : Kind)
    (attributes : Attributes) (hactor : c.request.actor? = some actor)
    (hnow : c.clock.utc = .ok now) :
    let w : Write := ⟨c, s, newEntity s kind attributes⟩
    w.before = none ∧ w.addition? = some (newAddition w.entity actor now) ∧
      w.modification? = none := by
  intro w
  have hbefore : w.before = none := h.find?_nextId kind
  refine ⟨hbefore, Write.addition?_eq_some.2 ⟨actor, now, hbefore, hactor, hnow, rfl⟩, ?_⟩
  simp [Write.modification?, hbefore]

/-- A creation extends the ledger. -/
theorem created (h : Ledger ws s) {c : Call} {kind : Kind} {attributes : Attributes} {actor : Actor}
    {now : WallTime} (hrequest : c.request.isCreate = true) (hactor : c.request.actor? = some actor)
    (hnow : c.clock.utc = .ok now) (hnormal : kind.Normal attributes)
    (hstep : c.step s = s.withCreated (newEntity s kind attributes)
      (newAddition (newEntity s kind attributes) actor now)) :
    Ledger (ws ++ [⟨c, s, newEntity s kind attributes⟩]) (c.step s) := by
  let w : Write := ⟨c, s, newEntity s kind attributes⟩
  obtain ⟨hbefore, haddition, hmodification⟩ := h.created_entries kind attributes hactor hnow
  have hvalid : w.Valid := by
    refine ⟨⟨actor, now, hactor, hnow⟩, hnormal, fun _ => hrequest, fun e he => ?_, ?_⟩
    · exact absurd (he.symm.trans hbefore) (Option.some_ne_none e)
    · rw [hstep, Store.find?_withCreated]
      exact if_pos ⟨rfl, rfl⟩
  rw [hstep]
  refine h.extend (h.sound.withCreated rfl) rfl hvalid (Store.find?_withCreated s _ _)
    (fun k => ?_) (fun k => ?_) (spentFrom_spend s kind).nextIds ?_
  · rw [entriesOf_append_none hmodification]
    exact h.modifications k
  · rw [arranged_append_some haddition, ← h.additions]
    exact AdditionLog.ofKind_place ..
  · change s.nextIds.get kind < (s.nextIds.modify kind (· + 1)).get kind
    rw [ByKind.get_modify_self]
    omega

/-- An update leaves a modification. -/
theorem updated_entries {c : Call} {before : Entity} {actor : Actor} {now : WallTime}
    (hbefore : s.find? before.kind before.id = some before) (attributes : Attributes)
    (hactor : c.request.actor? = some actor) (hnow : c.clock.utc = .ok now) :
    let w : Write := ⟨c, s, { before with attributes }⟩
    w.before = some before ∧ w.addition? = none ∧
      w.modification? = some (newModification before w.entity actor now) := by
  intro w
  have hfound : w.before = some before := hbefore
  refine ⟨hfound, ?_, ?_⟩
  · simp [Write.addition?, hfound]
  · exact Write.modification?_eq_some.2 ⟨before, actor, now, hfound, hactor, hnow, rfl⟩

/-- An update extends the ledger. -/
theorem updated (h : Ledger ws s) {c : Call} {before : Entity} {attributes : Attributes}
    {actor : Actor} {now : WallTime} (hrequest : c.request.isUpdate = true)
    (hactor : c.request.actor? = some actor) (hnow : c.clock.utc = .ok now)
    (hnormal : before.kind.Normal attributes)
    (hbefore : s.find? before.kind before.id = some before)
    (hstep : c.step s = s.withUpdated { before with attributes }
      (newModification before { before with attributes } actor now)) :
    Ledger (ws ++ [⟨c, s, { before with attributes }⟩]) (c.step s) := by
  let w : Write := ⟨c, s, { before with attributes }⟩
  obtain ⟨hfound, haddition, hmodification⟩ := updated_entries hbefore attributes hactor hnow
  have hvalid : w.Valid := by
    refine ⟨⟨actor, now, hactor, hnow⟩, hnormal, fun hnone => ?_, fun _ _ => hrequest, ?_⟩
    · exact absurd (hfound.symm.trans hnone) (Option.some_ne_none before)
    · rw [hstep, Store.find?_withUpdated]
      exact if_pos ⟨rfl, rfl⟩
  rw [hstep]
  refine h.extend (h.sound.withUpdated rfl) rfl hvalid (Store.find?_withUpdated s _ _)
    (fun k => ?_) (fun k => ?_) (fun _ => Int.le_refl _) (h.lt_of_find? hbefore)
  · rw [arranged_append_some hmodification, ← h.modifications]
    exact ModificationLog.ofKind_place ..
  · rw [entriesOf_append_none haddition]
    exact h.additions k

/-- A call extends the ledger by its write. -/
theorem step (h : Ledger ws s) (c : Call) : Ledger (ws ++ (c.write? s).toList) (c.step s) := by
  cases c.steps h.sound with
  | created hrequest hactor hnow hnormal hwrite hstep =>
    rw [hwrite]
    exact h.created hrequest hactor hnow hnormal hstep
  | updated hrequest hactor hnow hnormal hbefore hwrite hstep =>
    rw [hwrite]
    exact h.updated hrequest hactor hnow hnormal hbefore hstep
  | unchanged hwrite hstep =>
    rw [hwrite, Option.toList_none, List.append_nil]
    exact h.spentFrom hstep

/-- A list of calls extends the ledger by its writes. -/
theorem after (h : Ledger ws s) (calls : List Call) :
    Ledger (ws ++ s.writes calls) (s.after calls) := by
  induction calls generalizing ws s with
  | nil => simpa [Store.writes, Store.after, stateAfter] using h
  | cons c rest ih =>
    rw [Store.writes, ← List.append_assoc]
    exact ih (h.step c)

/-- The writes of a live entity are its creation and then updates that lead to its present state. -/
theorem exists_life (h : Ledger ws s) {kind : Kind} {id : Int} {e : Entity}
    (he : s.find? kind id = some e) :
    ∃ created updates, life ws kind id = created :: updates ∧ created.before = none ∧
      Follow (some created.entity) updates ∧ finalOf (some created.entity) updates = some e ∧
      ∀ w ∈ created :: updates, w.Valid ∧ w.entity.kind = kind ∧ w.entity.id = id := by
  have hfollow := h.follow kind id
  rw [h.live] at he
  obtain ⟨created, updates, hlife⟩ := exists_cons_of_finalOf he
  rw [hlife] at hfollow he
  refine ⟨created, updates, hlife, hfollow.1, hfollow.2, he, fun w hw => ?_⟩
  obtain ⟨hmem, rfl, rfl⟩ := mem_life.1 (hlife ▸ hw)
  exact ⟨h.valid w hmem, rfl, rfl⟩

/-- A live entity has exactly one addition. -/
theorem exists_addition (h : Ledger ws s) {kind : Kind} {id : Int} {e : Entity}
    (he : s.find? kind id = some e) :
    ∃ a, (s.additions.ofKind kind).filter (·.entityId == id) = [a] := by
  obtain ⟨created, updates, hlife, hnone, hupdates, -, hall⟩ := h.exists_life he
  obtain ⟨actor, now, hactor, hnow⟩ := (hall created List.mem_cons_self).1.attributed
  have hcreated := Write.addition?_eq_some.2 ⟨actor, now, hnone, hactor, hnow, rfl⟩
  have hlater : updates.filterMap Write.addition? = [] := by
    refine List.filterMap_eq_nil_iff.2 fun u hu => ?_
    obtain ⟨f, hf⟩ := hupdates.exists_before hu
    simp [Write.addition?, hf]
  refine ⟨newAddition created.entity actor now, List.perm_singleton.1 ?_⟩
  calc (s.additions.ofKind kind).filter (·.entityId == id)
    _ = (Timeline.arranged Addition.timestamp
          (entriesOf Write.addition? kind ws)).filter (·.entityId == id) := by rw [h.additions]
    List.Perm _ ((entriesOf Write.addition? kind ws).filter (·.entityId == id)) :=
        Timeline.arranged_perm.filter _
    _ = (life ws kind id).filterMap Write.addition? :=
        filter_entriesOf_eq Write.entityId_of_addition? ws kind id
    _ = [newAddition created.entity actor now] := by
        rw [hlife, List.filterMap_cons_some hcreated, hlater]

/-- The ids of the logged entities have been handed out. -/
theorem addition_lt (h : Ledger ws s) {kind : Kind} {a : Addition}
    (ha : a ∈ s.additions.ofKind kind) : a.entityId < s.nextIds.get kind := by
  rw [h.additions, Timeline.arranged_perm.mem_iff] at ha
  obtain ⟨w, hw, rfl, hentry⟩ := mem_entriesOf.1 ha
  rw [Write.entityId_of_addition? hentry]
  exact h.fresh w hw

theorem modification_lt (h : Ledger ws s) {kind : Kind} {m : Modification}
    (hm : m ∈ s.modifications.ofKind kind) : m.entityId < s.nextIds.get kind := by
  rw [h.modifications, Timeline.arranged_perm.mem_iff] at hm
  obtain ⟨w, hw, rfl, hentry⟩ := mem_entriesOf.1 hm
  rw [Write.entityId_of_modification? hentry]
  exact h.fresh w hw

/-- The log of modifications is that of the entries appended one by one, in the order of the
writes. -/
theorem appendAll_modifications (h : Ledger ws s) :
    Staging.appendAll ModificationLog.append .empty (ws.filterMap Write.modification?) =
      (s.modifications, none) := by
  have hnaive : ∀ m ∈ ws.filterMap Write.modification?, m.timestamp.isAware = false := by
    intro m hm
    obtain ⟨w, -, hw⟩ := List.mem_filterMap.1 hm
    obtain ⟨before, actor, now, -, -, -, rfl⟩ := Write.modification?_eq_some.1 hw
    rfl
  obtain ⟨log, happend, hlog⟩ := Staging.appendAll_modifications hnaive
  obtain rfl : log = s.modifications := ModificationLog.ext_ofKind fun kind => by
    rw [hlog, filter_filterMap_eq Write.kind_of_modification?, h.modifications]
  exact happend

theorem appendAll_additions (h : Ledger ws s) :
    Staging.appendAll AdditionLog.append .empty (ws.filterMap Write.addition?) =
      (s.additions, none) := by
  have hnaive : ∀ a ∈ ws.filterMap Write.addition?, a.timestamp.isAware = false := by
    intro a ha
    obtain ⟨w, -, hw⟩ := List.mem_filterMap.1 ha
    obtain ⟨actor, now, -, -, -, rfl⟩ := Write.addition?_eq_some.1 hw
    rfl
  obtain ⟨log, happend, hlog⟩ := Staging.appendAll_additions hnaive
  obtain rfl : log = s.additions := AdditionLog.ext_ofKind fun kind => by
    rw [hlog, filter_filterMap_eq Write.kind_of_addition?, h.additions]
  exact happend

end Ledger

/-- The writes of a run account for its store. -/
theorem ledger_of_run (calls : List Call) :
    Ledger (Store.empty.writes calls) (Store.empty.after calls) :=
  Ledger.empty.after calls

end Chronicle
