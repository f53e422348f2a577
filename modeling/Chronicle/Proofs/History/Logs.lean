import Chronicle.History.AdditionLog
import Chronicle.History.ModificationLog
import Chronicle.Proofs.History.Timeline

/-!
# Laws of the logs

What appending and querying come to where the moments of the log and the moment that is given can be
compared.

## Main definitions

* `ModificationFilter.selects`, `Addition.selectedBy` — whether a query finds an entry.
* `ModificationLog.place`, `AdditionLog.place` — a log with one entry more.

## Main statements

* `ModificationLog.append_eq_ok`, `AdditionLog.append_eq_ok` — when an entry is appended.
* `ModificationLog.entries_eq_ok`, `AdditionLog.entries_eq_ok` — what a query finds, and
  `ModificationLog.entries_eq_error`, `AdditionLog.entries_eq_error` — where it fails.
* `ModificationLog.append_eq_error_iff`, `AdditionLog.append_eq_error_iff` — when an entry is
  refused.
-/

namespace Chronicle

open Timeline

/-! ## Timelines of every kind -/

/-- The number of entries of all kinds. -/
def ByKind.size {α : Type} (b : ByKind (List α)) : Nat := b.demon.length + b.record.length

theorem ByKind.size_lt_set {α : Type} {b : ByKind (List α)} {kind : Kind} {xs : List α}
    (h : (b.get kind).length < xs.length) : b.size < (b.set kind xs).size := by
  cases kind <;> simp_all [get, set, size]

/-- Whether the entries of each kind can be compared with each other. -/
def ByKind.Uniform {α : Type} (stamp : α → Moment) (b : ByKind (List α)) : Prop :=
  ∀ kind, ∃ aware, Alike stamp aware (b.get kind)

theorem ByKind.Uniform.set {α : Type} {stamp : α → Moment} {b : ByKind (List α)} {kind : Kind}
    {x : α} {xs : List α} (h : b.Uniform stamp) (hxs : insert stamp x (b.get kind) = .ok xs) :
    (b.set kind xs).Uniform stamp := by
  intro other
  by_cases hother : other = kind
  · subst hother
    obtain ⟨aware, halike⟩ := h other
    rw [ByKind.get_set_self]
    exact halike.of_insert hxs
  · rw [ByKind.get_set_of_ne _ _ hother]
    exact h other

/-- What holds of all entries of each kind holds with a placed entry of which it holds. -/
theorem ByKind.forall_set_of_insert {α : Type} {stamp : α → Moment} {b : ByKind (List α)}
    {P : Kind → α → Prop} {kind : Kind} {x : α} {xs : List α}
    (h : ∀ kind, ∀ y ∈ b.get kind, P kind y) (hx : P kind x)
    (hxs : insert stamp x (b.get kind) = .ok xs) :
    ∀ other, ∀ y ∈ (b.set kind xs).get other, P other y := by
  intro other y hy
  by_cases hother : other = kind
  · subst hother
    rw [ByKind.get_set_self] at hy
    rcases List.mem_cons.1 ((perm_of_insert hxs).mem_iff.1 hy) with rfl | hy
    · exact hx
    · exact h other y hy
  · rw [ByKind.get_set_of_ne _ _ hother] at hy
    exact h other y hy

/-! ## Queries -/

/-- Whether a query of the log in memory finds an entry. -/
def ModificationFilter.selects (filter : ModificationFilter) (m : Modification) : Bool :=
  (filter.since.all fun start => decide (start.instant ≤ m.timestamp.instant)) && filter.accepts m

theorem ModificationFilter.accepts_eq (filter : ModificationFilter) (m : Modification) :
    filter.accepts m = (filter.entityId.all (m.entityId == ·) &&
      filter.name.all fun name => m.carries name filter.sentinel) := by
  unfold accepts
  cases filter.entityId <;> cases filter.name <;> rfl

/-- Whether a query of the additions in memory finds an entry. -/
def Addition.selectedBy (since : Option Moment) (a : Addition) : Bool :=
  since.all fun start => decide (start.instant ≤ a.timestamp.instant)

/-! ## Modifications -/

namespace ModificationLog

variable {log : ModificationLog} {m : Modification} {kind : Kind}

/-- The log with an entry in the place its moment gives it. -/
def place (log : ModificationLog) (m : Modification) : ModificationLog :=
  ⟨log.timelines.modify m.kind (Timeline.place Modification.timestamp m)⟩

theorem ofKind_empty (kind : Kind) : empty.ofKind kind = [] := ByKind.get_replicate [] kind

theorem ofKind_place (log : ModificationLog) (m : Modification) (kind : Kind) :
    (log.place m).ofKind kind =
      if kind = m.kind then Timeline.place Modification.timestamp m (log.ofKind kind)
      else log.ofKind kind := by
  by_cases h : kind = m.kind
  · subst h
    simp [place, ofKind]
  · simp [place, ofKind, ByKind.get_modify_of_ne _ _ h, h]

theorem ext_ofKind {log log' : ModificationLog} (h : ∀ kind, log.ofKind kind = log'.ofKind kind) :
    log = log' :=
  congrArg ModificationLog.mk (ByKind.ext_get h)

/-- The entries of a kind are placed among those of the kind. -/
theorem ofKind_foldl_place (log : ModificationLog) (xs : List Modification) (kind : Kind) :
    (xs.foldl place log).ofKind kind =
      (xs.filter (·.kind = kind)).foldl
        (fun placed x => Timeline.place Modification.timestamp x placed) (log.ofKind kind) := by
  induction xs generalizing log with
  | nil => rfl
  | cons x rest ih =>
    rw [List.foldl_cons, ih, ofKind_place]
    by_cases h : kind = x.kind
    · simp [h]
    · simp [h, Ne.symm h]

theorem append_eq_ok (h : Alike Modification.timestamp m.timestamp.isAware (log.ofKind m.kind)) :
    log.append m = .ok (log.place m) := by
  rw [append, insert_eq_ok h]
  rfl

/-- What an entry could be appended to has the entry in its place. -/
theorem eq_place_of_append {log' : ModificationLog} (h : log.append m = .ok log') :
    log' = log.place m := by
  obtain ⟨timeline, htimeline, h⟩ := bind_eq_ok_iff.1 h
  cases h
  rw [eq_place_of_insert htimeline]
  rfl

theorem ordered_of_append {log' : ModificationLog}
    (hordered : ∀ kind, Ordered Modification.timestamp (log.ofKind kind))
    (h : log.append m = .ok log') : ∀ kind, Ordered Modification.timestamp (log'.ofKind kind) := by
  intro kind
  rw [eq_place_of_append h, ofKind_place]
  split
  · exact (hordered kind).place
  · exact hordered kind

theorem size_lt_of_append {log' : ModificationLog} (h : log.append m = .ok log') :
    log.timelines.size < log'.timelines.size := by
  obtain ⟨timeline, htimeline, h⟩ := bind_eq_ok_iff.1 h
  cases h
  have hlength : timeline.length = (log.ofKind m.kind).length + 1 :=
    (perm_of_insert htimeline).length_eq
  exact ByKind.size_lt_set (hlength ▸ Nat.lt_succ_self _)

theorem uniform_of_append {log' : ModificationLog}
    (huniform : log.timelines.Uniform Modification.timestamp) (h : log.append m = .ok log') :
    log'.timelines.Uniform Modification.timestamp := by
  obtain ⟨timeline, htimeline, h⟩ := bind_eq_ok_iff.1 h
  cases h
  exact huniform.set htimeline

/-- What holds of all entries of each kind holds after appending an entry of which it holds. -/
theorem forall_of_append {log' : ModificationLog} {P : Kind → Modification → Prop}
    (hlog : ∀ kind, ∀ x ∈ log.ofKind kind, P kind x) (hentry : P m.kind m)
    (h : log.append m = .ok log') : ∀ kind, ∀ x ∈ log'.ofKind kind, P kind x := by
  obtain ⟨timeline, htimeline, h⟩ := bind_eq_ok_iff.1 h
  cases h
  exact ByKind.forall_set_of_insert hlog hentry htimeline

/-- Whether an entry is of a kind with an entry that it cannot be compared with. -/
def Clashes (log : ModificationLog) (m : Modification) : Prop :=
  ∃ other ∈ log.ofKind m.kind, other.timestamp.isAware ≠ m.timestamp.isAware

theorem append_eq_error_iff (h : log.timelines.Uniform Modification.timestamp) :
    (∃ e, log.append m = .error e) ↔ log.Clashes m := by
  obtain ⟨aware, halike⟩ := h m.kind
  refine Iff.trans ?_ (insert_eq_error_iff (x := m) halike)
  rw [append, ofKind]
  cases insert Modification.timestamp m (log.timelines.get m.kind) <;> simp

/-- A query without a moment filters all entries. -/
theorem entries_eq_ok_of_none {filter : ModificationFilter} (hsince : filter.since = none) :
    log.entries kind filter = .ok ((log.ofKind kind).filter filter.accepts) := by
  rw [entries, hsince]
  rfl

/-- A query from a moment on filters the entries from that moment on. -/
theorem entries_eq_ok {filter : ModificationFilter} {start : Moment}
    (hsince : filter.since = some start)
    (h : Alike Modification.timestamp start.isAware (log.ofKind kind))
    (hordered : Ordered Modification.timestamp (log.ofKind kind)) :
    log.entries kind filter =
      .ok ((cutAt Modification.timestamp start (log.ofKind kind)).filter filter.accepts) := by
  rw [entries, hsince, sinceOr, since_eq_ok h hordered]
  rfl

theorem entries_eq_error {filter : ModificationFilter} {start : Moment}
    (hsince : filter.since = some start) (h : log.timelines.Uniform Modification.timestamp)
    (hstart : ¬ Alike Modification.timestamp start.isAware (log.ofKind kind)) :
    log.entries kind filter = .error .mixedAwareness := by
  obtain ⟨aware, halike⟩ := h kind
  have hopposed := (halike.alike_or_opposed start).resolve_left hstart
  rw [entries, hsince, sinceOr, ofKind, since_eq_error hopposed, error_bind]

end ModificationLog

/-! ## Additions -/

namespace AdditionLog

variable {log : AdditionLog} {a : Addition} {kind : Kind}

/-- The log with an entry in the place its moment gives it. -/
def place (log : AdditionLog) (a : Addition) : AdditionLog :=
  ⟨log.timelines.modify a.kind (Timeline.place Addition.timestamp a)⟩

theorem ofKind_empty (kind : Kind) : empty.ofKind kind = [] := ByKind.get_replicate [] kind

theorem ofKind_place (log : AdditionLog) (a : Addition) (kind : Kind) :
    (log.place a).ofKind kind =
      if kind = a.kind then Timeline.place Addition.timestamp a (log.ofKind kind)
      else log.ofKind kind := by
  by_cases h : kind = a.kind
  · subst h
    simp [place, ofKind]
  · simp [place, ofKind, ByKind.get_modify_of_ne _ _ h, h]

theorem ext_ofKind {log log' : AdditionLog} (h : ∀ kind, log.ofKind kind = log'.ofKind kind) :
    log = log' :=
  congrArg AdditionLog.mk (ByKind.ext_get h)

/-- The entries of a kind are placed among those of the kind. -/
theorem ofKind_foldl_place (log : AdditionLog) (xs : List Addition) (kind : Kind) :
    (xs.foldl place log).ofKind kind =
      (xs.filter (·.kind = kind)).foldl
        (fun placed x => Timeline.place Addition.timestamp x placed) (log.ofKind kind) := by
  induction xs generalizing log with
  | nil => rfl
  | cons x rest ih =>
    rw [List.foldl_cons, ih, ofKind_place]
    by_cases h : kind = x.kind
    · simp [h]
    · simp [h, Ne.symm h]

theorem append_eq_ok (h : Alike Addition.timestamp a.timestamp.isAware (log.ofKind a.kind)) :
    log.append a = .ok (log.place a) := by
  rw [append, insert_eq_ok h]
  rfl

/-- What an entry could be appended to has the entry in its place. -/
theorem eq_place_of_append {log' : AdditionLog} (h : log.append a = .ok log') :
    log' = log.place a := by
  obtain ⟨timeline, htimeline, h⟩ := bind_eq_ok_iff.1 h
  cases h
  rw [eq_place_of_insert htimeline]
  rfl

theorem ordered_of_append {log' : AdditionLog}
    (hordered : ∀ kind, Ordered Addition.timestamp (log.ofKind kind))
    (h : log.append a = .ok log') : ∀ kind, Ordered Addition.timestamp (log'.ofKind kind) := by
  intro kind
  rw [eq_place_of_append h, ofKind_place]
  split
  · exact (hordered kind).place
  · exact hordered kind

theorem size_lt_of_append {log' : AdditionLog} (h : log.append a = .ok log') :
    log.timelines.size < log'.timelines.size := by
  obtain ⟨timeline, htimeline, h⟩ := bind_eq_ok_iff.1 h
  cases h
  have hlength : timeline.length = (log.ofKind a.kind).length + 1 :=
    (perm_of_insert htimeline).length_eq
  exact ByKind.size_lt_set (hlength ▸ Nat.lt_succ_self _)

theorem uniform_of_append {log' : AdditionLog}
    (huniform : log.timelines.Uniform Addition.timestamp) (h : log.append a = .ok log') :
    log'.timelines.Uniform Addition.timestamp := by
  obtain ⟨timeline, htimeline, h⟩ := bind_eq_ok_iff.1 h
  cases h
  exact huniform.set htimeline

/-- What holds of all entries of each kind holds after appending an entry of which it holds. -/
theorem forall_of_append {log' : AdditionLog} {P : Kind → Addition → Prop}
    (hlog : ∀ kind, ∀ x ∈ log.ofKind kind, P kind x) (hentry : P a.kind a)
    (h : log.append a = .ok log') : ∀ kind, ∀ x ∈ log'.ofKind kind, P kind x := by
  obtain ⟨timeline, htimeline, h⟩ := bind_eq_ok_iff.1 h
  cases h
  exact ByKind.forall_set_of_insert hlog hentry htimeline

/-- Whether an entry is of a kind with an entry that it cannot be compared with. -/
def Clashes (log : AdditionLog) (a : Addition) : Prop :=
  ∃ other ∈ log.ofKind a.kind, other.timestamp.isAware ≠ a.timestamp.isAware

theorem append_eq_error_iff (h : log.timelines.Uniform Addition.timestamp) :
    (∃ e, log.append a = .error e) ↔ log.Clashes a := by
  obtain ⟨aware, halike⟩ := h a.kind
  refine Iff.trans ?_ (insert_eq_error_iff (x := a) halike)
  rw [append, ofKind]
  cases insert Addition.timestamp a (log.timelines.get a.kind) <;> simp

/-- A query from a moment on finds the entries from that moment on. -/
theorem entries_eq_ok {start : Moment}
    (h : Alike Addition.timestamp start.isAware (log.ofKind kind))
    (hordered : Ordered Addition.timestamp (log.ofKind kind)) :
    log.entries kind (some start) = .ok (cutAt Addition.timestamp start (log.ofKind kind)) :=
  since_eq_ok h hordered

theorem entries_eq_error {start : Moment} (h : log.timelines.Uniform Addition.timestamp)
    (hstart : ¬ Alike Addition.timestamp start.isAware (log.ofKind kind)) :
    log.entries kind (some start) = .error .mixedAwareness := by
  obtain ⟨aware, halike⟩ := h kind
  exact since_eq_error ((halike.alike_or_opposed start).resolve_left hstart)

end AdditionLog

end Chronicle
