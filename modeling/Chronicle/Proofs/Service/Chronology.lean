import Chronicle.Proofs.Service.Ledger

/-!
# Runs in the order of their clock

Where the clock never goes back, a moment divides a run: the calls before it, then the calls from it
on. The logs then hold the entries of the writes in the order of the calls, and cutting a log at the
moment leaves the entries of the later part.

## Main definitions

* `Chronological` — calls at which the clock does not go back.
* `earlier`, `later` — the calls before a moment, and from it on.
* `Divided` — the writes of a run before a moment, and from it on.

## Main statements

* `Chronological.earlier_append_later` — a moment divides a run.
* `Chronological.modifications_eq`, `Chronological.additions_eq` — the logs, in the order of the
  calls.
* `cutAt_entriesOf` — the entries of the later part.
* `Chronological.divided` — a moment divides the writes of a run.
-/

namespace Chronicle

open Service

/-- Whether the clock does not go back from one call to the next. -/
def Chronological (calls : List Call) : Prop :=
  calls.Pairwise fun c d => c.clock.instant ≤ d.clock.instant

instance (calls : List Call) : Decidable (Chronological calls) :=
  inferInstanceAs (Decidable (calls.Pairwise _))

/-- The calls before a moment. -/
def earlier (moment : Moment) (calls : List Call) : List Call :=
  calls.filter fun c => decide (c.clock.instant < moment.instant)

/-- The calls from a moment on. -/
def later (moment : Moment) (calls : List Call) : List Call :=
  calls.filter fun c => decide (moment.instant ≤ c.clock.instant)

variable {calls : List Call} {moment : Moment}

theorem instant_lt_of_mem_earlier {c : Call} (h : c ∈ earlier moment calls) :
    c.clock.instant < moment.instant := of_decide_eq_true (List.mem_filter.1 h).2

theorem le_instant_of_mem_later {c : Call} (h : c ∈ later moment calls) :
    moment.instant ≤ c.clock.instant := of_decide_eq_true (List.mem_filter.1 h).2

/-- A moment divides a run. -/
theorem Chronological.earlier_append_later (h : Chronological calls) (moment : Moment) :
    earlier moment calls ++ later moment calls = calls := by
  induction calls with
  | nil => rfl
  | cons c rest ih =>
    obtain ⟨hc, hrest⟩ := List.pairwise_cons.1 h
    by_cases hlt : c.clock.instant < moment.instant
    · have hnot : ¬ moment.instant ≤ c.clock.instant := by omega
      have hrest := ih hrest
      unfold earlier later at hrest ⊢
      simp [hlt, hnot, hrest]
    · have hlate : ∀ d ∈ c :: rest, moment.instant ≤ d.clock.instant := by
        intro d hd
        rcases List.mem_cons.1 hd with rfl | hd
        · omega
        · have := hc d hd
          omega
      have hearlier : earlier moment (c :: rest) = [] :=
        List.filter_eq_nil_iff.2 fun d hd => by simpa using hlate d hd
      have hlater : later moment (c :: rest) = c :: rest :=
        List.filter_eq_self.2 fun d hd => decide_eq_true (hlate d hd)
      rw [hearlier, hlater, List.nil_append]

/-! ## Entries at the moments of their calls -/

/-- Whether the entries of writes are stamped with the moments of their calls. -/
def StampedByCall {α : Type} (stamp : α → Moment) (found? : Write → Option α) : Prop :=
  ∀ w x, found? w = some x → (stamp x).instant = w.call.clock.instant

theorem stampedByCall_modification? :
    StampedByCall Modification.timestamp Write.modification? := by
  intro w m h
  obtain ⟨before, actor, now, -, -, hnow, rfl⟩ := Write.modification?_eq_some.1 h
  exact Moment.instant_of_utc hnow

theorem stampedByCall_addition? : StampedByCall Addition.timestamp Write.addition? := by
  intro w a h
  obtain ⟨actor, now, -, -, hnow, rfl⟩ := Write.addition?_eq_some.1 h
  exact Moment.instant_of_utc hnow

section Entries

variable {α : Type} {stamp : α → Moment} {found? : Write → Option α} {kind : Kind}
  {ws vs : List Write}

/-- Writes in the order of their clock leave their entries in the order of their moments. -/
theorem ordered_entriesOf (hstamp : StampedByCall stamp found?)
    (hws : Chronological (ws.map Write.call)) :
    Timeline.Ordered stamp (entriesOf found? kind ws) := by
  have hpairs : ws.Pairwise fun v w => v.call.clock.instant ≤ w.call.clock.instant := by
    rwa [Chronological, List.pairwise_map] at hws
  refine List.pairwise_filterMap.2 ((hpairs.filter _).imp fun hle x hx y hy => ?_)
  rwa [hstamp _ x hx, hstamp _ y hy]

/-- The entries from a moment on are those of the writes from the moment on. -/
theorem cutAt_entriesOf (hstamp : StampedByCall stamp found?)
    (hws : ∀ w ∈ ws, w.call.clock.instant < moment.instant)
    (hvs : ∀ w ∈ vs, moment.instant ≤ w.call.clock.instant) :
    Timeline.cutAt stamp moment (entriesOf found? kind (ws ++ vs)) = entriesOf found? kind vs := by
  have hnone : Timeline.cutAt stamp moment (entriesOf found? kind ws) = [] := by
    refine List.filter_eq_nil_iff.2 fun x hx => ?_
    obtain ⟨w, hw, -, hentry⟩ := mem_entriesOf.1 hx
    have hlt := hws w hw
    rw [hstamp w x hentry, decide_eq_true_eq]
    omega
  have hall :
      Timeline.cutAt stamp moment (entriesOf found? kind vs) = entriesOf found? kind vs := by
    refine List.filter_eq_self.2 fun x hx => ?_
    obtain ⟨w, hw, -, hentry⟩ := mem_entriesOf.1 hx
    rw [hstamp w x hentry]
    exact decide_eq_true (hvs w hw)
  rw [entriesOf_append]
  unfold Timeline.cutAt at hnone hall ⊢
  rw [List.filter_append, hnone, hall, List.nil_append]

end Entries

/-! ## The logs of a run -/

section Logs

variable {ws : List Write} {s : Store}

/-- In a run in the order of its clock, modifications are logged in the order of the calls. -/
theorem Chronological.modifications_eq (h : Chronological (ws.map Write.call)) (hs : Ledger ws s)
    (kind : Kind) :
    s.modifications.ofKind kind = entriesOf Write.modification? kind ws :=
  (hs.modifications kind).trans
    (Timeline.arranged_eq_self (ordered_entriesOf stampedByCall_modification? h))

theorem Chronological.additions_eq (h : Chronological (ws.map Write.call)) (hs : Ledger ws s)
    (kind : Kind) :
    s.additions.ofKind kind = entriesOf Write.addition? kind ws :=
  (hs.additions kind).trans
    (Timeline.arranged_eq_self (ordered_entriesOf stampedByCall_addition? h))

theorem Chronological.writes (h : Chronological calls) (s : Store) :
    Chronological ((s.writes calls).map Write.call) :=
  h.sublist (s.writes_sublist calls)

theorem call_mem_of_mem_writes {w : Write} (h : w ∈ s.writes calls) : w.call ∈ calls :=
  (s.writes_sublist calls).subset (List.mem_map_of_mem h)

end Logs

/-! ## A run and a moment -/

/-- Writes that account for a store before a moment, and writes from the moment on that lead from it
to a later store. -/
structure Divided (moment : Moment) (past present : Store) (ws vs : List Write) : Prop where
  past : Ledger ws past
  present : Ledger (ws ++ vs) present
  chronological : Chronological ((ws ++ vs).map Write.call)
  before : ∀ w ∈ ws, w.call.clock.instant < moment.instant
  after : ∀ w ∈ vs, moment.instant ≤ w.call.clock.instant

/-- A moment divides the writes of a run. -/
theorem Chronological.divided (h : Chronological calls) (moment : Moment) :
    let past := Store.empty.after (earlier moment calls)
    Divided moment past (Store.empty.after calls) (Store.empty.writes (earlier moment calls))
      (past.writes (later moment calls)) := by
  intro past
  have hcalls := h.earlier_append_later moment
  have hpresent : Store.empty.after calls = past.after (later moment calls) := by
    rw [← Store.after_append, hcalls]
  have hwrites : Store.empty.writes calls =
      Store.empty.writes (earlier moment calls) ++ past.writes (later moment calls) := by
    rw [← Store.writes_append, hcalls]
  refine ⟨ledger_of_run _, ?_, ?_, fun w hw => ?_, fun w hw => ?_⟩
  · rw [hpresent]
    exact (ledger_of_run _).after _
  · rw [← hwrites]
    exact h.writes .empty
  · exact instant_lt_of_mem_earlier (call_mem_of_mem_writes hw)
  · exact le_instant_of_mem_later (call_mem_of_mem_writes hw)

/-- A moment and its reading of universal time divide a run alike. -/
theorem Divided.naive {past present : Store} {ws vs : List Write} {t : WallTime}
    (h : Divided moment past present ws vs) (ht : moment.utc = .ok t) :
    Divided (.naive t) past present ws vs where
  past := h.past
  present := h.present
  chronological := h.chronological
  before w hw := Int.lt_of_lt_of_le (h.before w hw) (Int.le_of_eq (Moment.instant_of_utc ht).symm)
  after w hw := Int.le_trans (Int.le_of_eq (Moment.instant_of_utc ht)) (h.after w hw)

end Chronicle
