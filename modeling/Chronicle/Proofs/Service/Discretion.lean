import Chronicle.Logging.Render
import Chronicle.Proofs.Service.Effect
import Chronicle.Proofs.Service.Lines

/-!
# Values stay out of the logs

What an operation logs, and what later operations may log after it, follows from what may be seen of
it: its arguments but for the values of attributes, the class of its failure if it fails, and the
names of the attributes that it changed. Of a store only the next ids, the ids of its entities and
the log of additions matter. So two runs that look alike from outside log the same, line by line.

## Main definitions

* `Shape` — what may be seen of a request.
* `Outline` — what may be seen of a store.
* `Call.ending`, `Call.changed` — what may be seen of how a call ends.
* `Outline.lines`, `Outline.after` — what is logged, and what may be seen afterwards.
* `Store.SeemAlike` — runs that agree in all that may be seen.

## Main statements

* `Call.lines_eq`, `Call.outline_step` — a call, from what may be seen.
* `logged_eq_of_seemAlike` — runs that seem alike log the same.
-/

namespace Chronicle

open Service

/-! ## What may be seen -/

/-- What may be seen of a request: all but the values of attributes. -/
inductive Shape where
  | create (kind : Value) (actor : Option Actor)
  | update (kind : Value) (id : Int) (actor : Option Actor)
  | get (kind : Value) (id : Int)
  | auditTrail (kind : Value) (id : Int)
  | reconstructAt (kind : Value) (moment : Moment) (name : Option String)
  | movements (kind : Value) (source target : Moment) (name : Option String)

def Request.shape : Request → Shape
  | create kind _ actor => .create kind actor
  | update kind id _ actor => .update kind id actor
  | get kind id => .get kind id
  | auditTrail kind id => .auditTrail kind id
  | reconstructAt kind moment name => .reconstructAt kind moment name
  | movements kind source target name => .movements kind source target name

/-- The tracked attributes of an entity whose values a write changed. -/
def Write.changed (w : Write) : List String :=
  match w.before with
  | none => []
  | some before =>
    w.entity.kind.tracked.filter (before.attributes.differsAt w.entity.attributes)

/-- The class of a failure, if a result is one. -/
def endingOf {α : Type} : Except Error α → Option String
  | .ok _ => none
  | .error e => some e.className

@[simp] theorem endingOf_map {α β : Type} (f : α → β) (result : Except Error α) :
    endingOf (f <$> result) = endingOf result := by
  cases result <;> rfl

namespace Call

/-- The class of the failure of a call, if it fails. -/
def ending (c : Call) (s : Store) : Option String := endingOf (c.perform s).result

/-- The tracked attributes whose values a call changed. -/
def changed (c : Call) (s : Store) : List String :=
  match c.write? s with
  | none => []
  | some w => w.changed

end Call

/-- What may be seen of a store: the next ids, the ids of its entities and its additions. -/
@[ext] structure Outline where
  nextIds : ByKind Int
  ids : Kind → List Int
  additions : AdditionLog

def Store.outline (s : Store) : Outline where
  nextIds := s.nextIds
  ids kind := (s.entities.get kind).rows.map (·.id)
  additions := s.additions

/-! ## What is logged -/

namespace Outline

/-- The ids of a kind without an addition from a moment on. -/
def present (o : Outline) (kind : Kind) (t : WallTime) : List Int :=
  (o.ids kind).filter fun id =>
    !((Timeline.cutAt Addition.timestamp (.naive t) (o.additions.ofKind kind)).map
      (·.entityId)).contains id

/-- What a reconstruction logs. -/
def orderingLines (o : Outline) (kind : Value) (moment : Moment) (name : Option String) :
    List LogLine :=
  match Kind.ofValue kind with
  | .error _ => []
  | .ok kind =>
    match kind.requireTracked name, moment.utc with
    | .ok name, .ok t => [reconstructedLine kind name t (o.present kind t).length]
    | _, _ => []

/-- What a request logs, by how it ends. -/
def lines (o : Outline) (ending : Option String) (changed : List String) : Shape → List LogLine
  | .create kind actor =>
    match ending with
    | some name => if name = Error.outOfRange.className then [Store.rolledBack] else []
    | none =>
      match Kind.ofValue kind, actor with
      | .ok kind, some actor => [createdLine kind (o.nextIds.get kind) actor]
      | _, _ => []
  | .update kind id actor =>
    match Kind.ofValue kind, actor with
    | .ok kind, some actor =>
      match ending with
      | some _ => [Store.rolledBack]
      | none => [updatedLine kind id actor (changed.mergeSort fun s t => decide (s ≤ t))]
    | _, _ => []
  | .get .. | .auditTrail .. => []
  | .reconstructAt kind moment name => o.orderingLines kind moment name
  | .movements kind source target name =>
    match source.utc, target.utc with
    | .ok start, .ok stop =>
      if stop.micros ≤ start.micros then []
      else o.orderingLines kind source name ++ o.orderingLines kind target name
    | _, _ => []

/-- The outline with a new entity and its addition. -/
def created (o : Outline) (kind : Kind) (actor : Actor) (now : WallTime) : Outline where
  nextIds := o.nextIds.modify kind (· + 1)
  ids other := if other = kind then o.ids kind ++ [o.nextIds.get kind] else o.ids other
  additions := o.additions.place ⟨kind, o.nextIds.get kind, actor.id, .naive now⟩

/-- The outline with one id of a kind spent. -/
def spent (o : Outline) (kind : Kind) : Outline :=
  { o with nextIds := o.nextIds.modify kind (· + 1) }

/-- The outline after a request, by how it ends. -/
def after (o : Outline) (clock : Moment) (ending : Option String) : Shape → Outline
  | .create kind actor =>
    match Kind.ofValue kind, ending with
    | .ok kind, some name => if name = Error.outOfRange.className then o.spent kind else o
    | .ok kind, none =>
      match actor, clock.utc with
      | some actor, .ok now => o.created kind actor now
      | _, _ => o
    | .error _, _ => o
  | _ => o

end Outline

/-! ## Stores and their outlines -/

section Outlines

variable {s : Store} {ws : List Write}

theorem Ledger.outline_withCreated (h : Ledger ws s) (kind : Kind) (attributes : Attributes)
    (actor : Actor) (now : WallTime) :
    (s.withCreated (newEntity s kind attributes)
      (newAddition (newEntity s kind attributes) actor now)).outline =
        s.outline.created kind actor now := by
  refine Outline.ext rfl (funext fun other => ?_) rfl
  by_cases hother : other = kind
  · subst hother
    have hfresh : ∀ r ∈ (s.entities.get other).rows, r.id < (newEntity s other attributes).id :=
      fun r hr => h.lt_of_find? (EntityTable.mem_rows_iff.1 hr)
    have hrows : ((s.entities.modify other (·.upsert (newEntity s other attributes))).get
        other).rows = (s.entities.get other).rows ++ [newEntity s other attributes] := by
      rw [ByKind.get_modify_self]
      exact EntityTable.place_eq_append hfresh
    refine (congrArg (List.map (·.id)) hrows).trans ?_
    rw [List.map_append, Outline.created]
    exact (if_pos rfl).symm
  · have hrows : (s.entities.modify kind (·.upsert (newEntity s kind attributes))).get other =
        s.entities.get other := ByKind.get_modify_of_ne _ _ hother
    refine (congrArg (fun t => t.rows.map (·.id)) hrows).trans ?_
    exact (if_neg hother).symm

theorem outline_withUpdated {before : Entity}
    (hbefore : s.find? before.kind before.id = some before) (attributes : Attributes)
    (m : Modification) : (s.withUpdated { before with attributes } m).outline = s.outline := by
  refine Outline.ext rfl (funext fun other => ?_) rfl
  by_cases hother : other = before.kind
  · subst hother
    obtain ⟨front, back, hrows, hupserted⟩ :=
      EntityTable.oneOther_upsert (e := { before with attributes }) hbefore
    simp only [Store.outline, Store.withUpdated, ByKind.get_modify_self]
    rw [hupserted, hrows]
    simp
  · simp only [Store.outline, Store.withUpdated, ByKind.get_modify_of_ne _ _ hother]

/-- What a reconstruction logs follows from the outline, as it never fails. -/
theorem Ledger.reconstructAt_lines (h : Ledger ws s) (kindValue : Value) (moment : Moment)
    (name? : Option String) :
    (reconstructAt kindValue moment name? s).lines =
      s.outline.orderingLines kindValue moment name? := by
  unfold Outline.orderingLines
  cases hkind : Kind.ofValue kindValue with
  | error e =>
    rw [reconstructAt, hkind]
    rfl
  | ok kind =>
    obtain rfl := eq_name_of_ofValue hkind
    dsimp only
    cases hname : kind.requireTracked name? with
    | error e =>
      rw [reconstructAt, hkind, Operation.lift_bind_ok, hname]
      rfl
    | ok name =>
      obtain ⟨rfl, htracked⟩ := of_requireTracked hname
      cases ht : moment.utc with
      | error e =>
        rw [reconstructAt, hkind, Operation.lift_bind_ok, hname, Operation.lift_bind_ok,
          toNaive_of_utc_error ht]
        rfl
      | ok t =>
        obtain ⟨rows, hrows, hperm, -⟩ := h.reconstructAt_ok htracked ht
        have hcount : rows.length = (s.outline.present kind t).length := by
          rw [hperm.length_eq, Store.rowsBefore, List.length_map, Store.presentBefore,
            Outline.present, Store.outline, List.filter_map, List.length_map]
          rfl
        rw [Service.reconstructAt_lines s htracked ht, hrows]
        simp only [hcount]

/-- A reconstruction that can be asked for succeeds and changes nothing. -/
theorem Ledger.reconstructAt_outcome (h : Ledger ws s) {kind : Kind} {name : String}
    (hname : name ∈ kind.tracked) {moment : Moment} {t : WallTime} (ht : moment.utc = .ok t) :
    ∃ rows, reconstructAt (.text kind.name) moment (some name) s = {
      result := .ok rows
      state := s
      lines := s.outline.orderingLines (.text kind.name) moment (some name) } := by
  obtain ⟨rows, hrows, -⟩ := h.reconstructAt_ok hname ht
  have hstate := (reconstructAt_readOnly (.text kind.name) moment (some name)).state s
  have hlines := h.reconstructAt_lines (.text kind.name) moment (some name)
  refine ⟨rows, ?_⟩
  rw [← hrows, ← hlines]
  conv_rhs => arg 2; rw [← hstate]

/-- Two reconstructions log what each logs. -/
theorem Ledger.movements_lines (h : Ledger ws s) (kindValue : Value) (source target : Moment)
    (name? : Option String) :
    (Service.movements kindValue source target name? s).lines =
      match source.utc, target.utc with
      | .ok start, .ok stop =>
        if stop.micros ≤ start.micros then []
        else s.outline.orderingLines kindValue source name? ++
          s.outline.orderingLines kindValue target name?
      | _, _ => [] := by
  unfold Service.movements
  cases hstart : source.utc with
  | error e => rfl
  | ok start =>
    cases hstop : target.utc with
    | error e => rfl
    | ok stop =>
      simp only [Operation.lift_bind_ok]
      split
      · rfl
      · cases hkind : Kind.ofValue kindValue with
        | error e =>
          simp only [reconstructAt, Outline.orderingLines, hkind]
          rfl
        | ok kind =>
          obtain rfl := eq_name_of_ofValue hkind
          cases hname : kind.requireTracked name? with
          | error e =>
            simp only [reconstructAt, Outline.orderingLines, hkind, hname, Operation.lift_bind_ok]
            rfl
          | ok name =>
            obtain ⟨rfl, htracked⟩ := of_requireTracked hname
            obtain ⟨rows, hrows⟩ := h.reconstructAt_outcome htracked hstart
            obtain ⟨more, hmore⟩ := h.reconstructAt_outcome htracked hstop
            refine (congrArg Outcome.lines (Operation.bind_of_ok hrows)).trans ?_
            refine congrArg _ ((congrArg Outcome.lines (Operation.bind_of_ok hmore)).trans ?_)
            exact List.append_nil _

end Outlines

/-! ## Calls and their outlines -/

namespace Call

variable {s : Store} {ws : List Write}

/-- Whether a call logs, and leaves to be seen, what follows from what may be seen of it. -/
structure Discreet (c : Call) (s : Store) : Prop where
  lines : (c.perform s).lines = s.outline.lines (c.ending s) (c.changed s) c.request.shape
  outline : (c.step s).outline = s.outline.after c.clock (c.ending s) c.request.shape

/-- A call is discreet if the operation that it carries out is. -/
theorem Discreet.of_outcome {α : Type} {c : Call} {x : Operation Store α} {f : α → Response}
    (hperform : c.perform = f <$> x) {outcome : Outcome Store α} (hx : x s = outcome)
    (hlines : outcome.lines =
      s.outline.lines (endingOf outcome.result) (c.changed s) c.request.shape)
    (houtline : outcome.state.outline =
      s.outline.after c.clock (endingOf outcome.result) c.request.shape) : c.Discreet s := by
  have hending : c.ending s = endingOf outcome.result := by
    rw [ending, hperform, Operation.map_result, endingOf_map, hx]
  constructor
  · rw [hending, hperform, Operation.map_lines, hx, hlines]
  · rw [hending, step_of_perform hperform, hx, houtline]

theorem discreet_create (h : Ledger ws s) (kindValue input : Value) (actor? : Option Actor)
    (clock : Moment) : Discreet ⟨.create kindValue input actor?, clock⟩ s := by
  rcases create_ends h.sound kindValue input actor? clock with
    ⟨kind, attributes, actor, now, hkind, rfl, hnow, hcreate⟩ | ⟨kind, hkind, hcreate⟩ |
    ⟨e, he, hcreate⟩
  · refine .of_outcome rfl hcreate ?_ ?_
    · simp only [Request.shape, Outline.lines, hkind, endingOf]
      rfl
    · simp only [Request.shape, Outline.after, hkind, hnow, endingOf]
      exact h.outline_withCreated kind attributes actor now
  · refine .of_outcome rfl hcreate ?_ ?_
    · simp only [Request.shape, Outline.lines, endingOf, if_pos]
    · simp only [Request.shape, Outline.after, hkind, endingOf, if_pos]
      rfl
  · refine .of_outcome rfl hcreate ?_ ?_
    · simp [Request.shape, Outline.lines, endingOf, he]
    · simp only [Request.shape, Outline.after, endingOf]
      cases Kind.ofValue kindValue with
      | error e => rfl
      | ok kind => exact (if_neg he).symm

/-- The names that an update logs are those of the attributes that it changed. -/
theorem changedNames_newModification (before : Entity) (attributes : Attributes) (actor : Actor)
    (now : WallTime) :
    changedNames (newModification before { before with attributes } actor now) =
      (before.kind.tracked.filter (before.attributes.differsAt attributes)).mergeSort
        fun s t => decide (s ≤ t) := by
  have htracked : before.kind.tracked.Nodup := by cases before.kind <;> decide
  exact congrArg (List.mergeSort · _) (Attributes.names_diff htracked)

theorem discreet_update (h : Ledger ws s) (kindValue : Value) (id : Int) (changes : Attributes)
    (actor? : Option Actor) (clock : Moment) :
    Discreet ⟨.update kindValue id changes actor?, clock⟩ s := by
  let c : Call := ⟨.update kindValue id changes actor?, clock⟩
  rcases update_ends h.sound kindValue id changes actor? clock with
    ⟨before, attributes, actor, now, hkind, rfl, hbefore, rfl, hupdate⟩ |
    ⟨e, kind, actor, hkind, rfl, hupdate⟩ | ⟨e, hinvalid, hupdate⟩
  · have hwrite : c.write? s = some ⟨c, s, { before with attributes }⟩ := by
      simp [write?, c, Request.isUpdate, perform, hupdate]
    have hchanged : c.changed s =
        before.kind.tracked.filter (before.attributes.differsAt attributes) := by
      rw [changed, hwrite]
      simp only [Write.changed, Write.before, hbefore]
    refine .of_outcome rfl hupdate ?_ ?_
    · rw [changedNames_newModification, hchanged]
      simp only [Request.shape, Outline.lines, hkind, endingOf]
    · exact outline_withUpdated hbefore attributes _
  · refine .of_outcome rfl hupdate ?_ rfl
    simp only [Request.shape, Outline.lines, hkind, endingOf]
  · refine .of_outcome rfl hupdate ?_ rfl
    rcases hinvalid with ⟨e, he⟩ | rfl
    · simp only [Request.shape, Outline.lines, he]
    · simp only [Request.shape, Outline.lines]
      cases Kind.ofValue kindValue <;> rfl

/-- Every call is discreet on what calls leave behind. -/
theorem discreet (h : Ledger ws s) (c : Call) : c.Discreet s := by
  obtain ⟨request, clock⟩ := c
  have hread : ∀ {request : Request}, (request.isCreate || request.isUpdate) = false →
      (Call.step ⟨request, clock⟩ s).outline = s.outline := fun hrequest => by
    rw [step, perform_keeps keptBySnapshots_store hrequest s]
  cases request with
  | create kindValue input actor? => exact discreet_create h kindValue input actor? clock
  | update kindValue id changes actor? =>
    exact discreet_update h kindValue id changes actor? clock
  | get kindValue id =>
    exact ⟨(Operation.map_lines ..).trans (get_lines s kindValue id), hread rfl⟩
  | auditTrail kindValue id =>
    exact ⟨(Operation.map_lines ..).trans (auditTrail_lines s kindValue id), hread rfl⟩
  | reconstructAt kindValue moment name? =>
    exact ⟨(Operation.map_lines ..).trans (h.reconstructAt_lines kindValue moment name?),
      hread rfl⟩
  | movements kindValue source target name? =>
    exact ⟨(Operation.map_lines ..).trans (h.movements_lines kindValue source target name?),
      hread rfl⟩

end Call

/-- A reconstruction that can be asked for does not fail. -/
theorem Call.ending_reconstructAt {s : Store} {ws : List Write} (h : Ledger ws s) {kind : Kind}
    {name : String} (hname : name ∈ kind.tracked) (t : WallTime) (clock : Moment) :
    Call.ending ⟨.reconstructAt (.text kind.name) (.naive t) (some name), clock⟩ s = none := by
  have ht : (Moment.naive t).utc = .ok t := rfl
  obtain ⟨rows, hrows⟩ := h.reconstructAt_outcome hname ht
  rw [Call.ending, Call.perform, Operation.map_result, hrows]
  rfl

/-! ## Runs that seem alike -/

namespace Store

/-- What calls log, call by call. -/
def logged (s : Store) : List Call → List (List LogLine)
  | [] => []
  | c :: rest => (c.perform s).lines :: logged (c.step s) rest

/-- Whether two runs agree in all that may be seen: each call of the one is like the call of the
other at its place but for the values of attributes, both succeed or fail with the same class, and
both change the values of the same tracked attributes. -/
inductive SeemAlike : Store → Store → List Call → List Call → Prop
  | nil (s t : Store) : SeemAlike s t [] []
  | cons {s t : Store} {c d : Call} {calls others : List Call}
      (shape : c.request.shape = d.request.shape) (clock : c.clock = d.clock)
      (ending : c.ending s = d.ending t) (changed : c.changed s = d.changed t)
      (rest : SeemAlike (c.step s) (d.step t) calls others) :
      SeemAlike s t (c :: calls) (d :: others)

theorem SeemAlike.logged_eq {s t : Store} {calls others : List Call}
    (h : SeemAlike s t calls others) {ws vs : List Write} (hs : Ledger ws s) (ht : Ledger vs t)
    (houtline : s.outline = t.outline) : s.logged calls = t.logged others := by
  induction h generalizing ws vs with
  | nil => rfl
  | @cons s t c d calls others shape clock ending changed rest ih =>
    have hc := c.discreet hs
    have hd := d.discreet ht
    have hlines : (c.perform s).lines = (d.perform t).lines := by
      rw [hc.lines, hd.lines, shape, ending, changed, houtline]
    have hnext : (c.step s).outline = (d.step t).outline := by
      rw [hc.outline, hd.outline, shape, clock, ending, houtline]
    rw [logged, logged, hlines, ih (hs.step c) (ht.step d) hnext]

end Store

/-- Values stay out of the logs. Two runs that agree in all but the values of attributes, call by
call, where both calls succeed or fail with the same class and change the same tracked attributes,
log the same lines call by call; so the same lines come out under every configuration, in the same
form. -/
theorem logged_eq_of_seemAlike {calls others : List Call}
    (h : Store.SeemAlike .empty .empty calls others) :
    Store.empty.logged calls = Store.empty.logged others ∧
      ∀ (config : LogConfig) (stamp : String),
        (Store.empty.logged calls).map (config.render stamp) =
          (Store.empty.logged others).map (config.render stamp) := by
  have hlogged := h.logged_eq .empty .empty rfl
  exact ⟨hlogged, fun config stamp => by rw [hlogged]⟩

/-- A demon that is created, moves, is refused a position and is looked for in the past. -/
def seenRun : List Call := [
  { request := .create (.text "demon") (.object [
      ("name", .text "Bloodbath"), ("position", .int 3), ("requirement", .int 50),
      ("verifier", .int 10), ("publisher", .int 11), ("difficulty", .text "extreme")])
      (some ⟨7, none⟩)
    clock := .naive ⟨51, by decide⟩ },
  { request := .update (.text "demon") 1 ⟨[("position", .int 5)]⟩ (some ⟨7, none⟩)
    clock := .naive ⟨53, by decide⟩ },
  { request := .update (.text "demon") 1 ⟨[("position", .int 0)]⟩ (some ⟨7, none⟩)
    clock := .naive ⟨55, by decide⟩ },
  { request := .reconstructAt (.text Kind.demon.name) (.naive ⟨52, by decide⟩) (some "position")
    clock := .naive ⟨55, by decide⟩ }]

/-- The same with other values. -/
def unseenRun : List Call := [
  { request := .create (.text "demon") (.object [
      ("name", .text "Cataclysm"), ("position", .int 8), ("requirement", .int 61),
      ("verifier", .int 4), ("publisher", .int 4), ("difficulty", .text "easy")])
      (some ⟨7, none⟩)
    clock := .naive ⟨51, by decide⟩ },
  { request := .update (.text "demon") 1 ⟨[("position", .int (-1))]⟩ (some ⟨7, none⟩)
    clock := .naive ⟨53, by decide⟩ },
  { request := .update (.text "demon") 1 ⟨[("requirement", .text "high")]⟩ (some ⟨7, none⟩)
    clock := .naive ⟨55, by decide⟩ },
  { request := .reconstructAt (.text Kind.demon.name) (.naive ⟨52, by decide⟩) (some "position")
    clock := .naive ⟨55, by decide⟩ }]

theorem logged_eq_of_seemAlike_seenRun :
    Store.SeemAlike .empty .empty seenRun unseenRun ∧
      Store.empty.logged seenRun = Store.empty.logged unseenRun ∧
      ∀ (config : LogConfig) (stamp : String),
        (Store.empty.logged seenRun).map (config.render stamp) =
          (Store.empty.logged unseenRun).map (config.render stamp) := by
  have h : Store.SeemAlike .empty .empty seenRun unseenRun := by
    refine .cons rfl rfl (by decide +kernel) (by decide +kernel) <|
      .cons rfl rfl (by decide +kernel) (by decide +kernel) <|
      .cons rfl rfl (by decide +kernel) (by decide +kernel) <|
      .cons rfl rfl ?_ (by decide +kernel) (.nil _ _)
    have hname : "position" ∈ Kind.demon.tracked := by decide
    exact (Call.ending_reconstructAt (ledger_of_run (seenRun.take 3)) hname _ _).trans
      (Call.ending_reconstructAt (ledger_of_run (unseenRun.take 3)) hname _ _).symm
  exact ⟨h, logged_eq_of_seemAlike h⟩

end Chronicle
