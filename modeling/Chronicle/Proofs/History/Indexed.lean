import Chronicle.History.Indexed
import Chronicle.Proofs.History.Logs
import Chronicle.Proofs.History.Stability
import Chronicle.Proofs.Sorting.Gallop

/-!
# Laws of indexed logs

The entries of a timeline and its moments stay in step, so the list of moments is sorted and halving
it finds the place where the entries that are not later end, and the place where those that are not
earlier begin. Whatever is attempted, an indexed log stores the entries whose attempt succeeded,
those of each kind arranged by their moments.

## Main definitions

* `afterAttempts` — what attempts make of a state, one after the other.
* `Indexed.Stores`, `IndexedLog.Stores` — a timeline and a log that store a list of entries.
* `IndexedLog.run` — attempts to append, and which of them succeeded.

## Main statements

* `Indexed.Stores.placeBehind_eq_ok`, `Indexed.Stores.placeOf_eq_ok` — the places that are found,
  and `Indexed.Stores.placeBehind_eq_error`, `Indexed.Stores.placeOf_eq_error` — where none is.
* `Indexed.Stores.since_eq_sinceOr` — a query finds what it finds entry by entry.
* `IndexedLog.Stores.append_cases` — what an attempt does.
* `IndexedLog.stores_run` — what attempts leave.
* `IndexedLog.get_afterAttempts` — the same, entry by entry.
-/

namespace Chronicle

open Timeline

variable {α : Type} {kindOf : α → Kind} {stamp : α → Moment} {aware : Bool} {moment : Moment}
  {kept : List α} {x : α}

/-! ## Attempts that may fail -/

section Attempts

variable {σ : Type} {append : σ → α → Except Error σ} {start : σ}

/-- What attempts, one after the other, make of a state; one that fails leaves it as it is. -/
def afterAttempts (append : σ → α → Except Error σ) (start : σ) (attempts : List α) : σ :=
  attempts.foldl (fun s x => (append s x).toOption.getD s) start

theorem afterAttempts_of_ok {attempts : List α} {x : α} {s : σ}
    (h : append (afterAttempts append start attempts) x = .ok s) :
    afterAttempts append start (attempts ++ [x]) = s := by
  rw [afterAttempts, List.foldl_concat, ← afterAttempts, h]
  rfl

theorem afterAttempts_of_error {attempts : List α} {x : α} {e : Error}
    (h : append (afterAttempts append start attempts) x = .error e) :
    afterAttempts append start (attempts ++ [x]) = afterAttempts append start attempts := by
  rw [afterAttempts, List.foldl_concat, ← afterAttempts, h]
  rfl

/-- Places an entry among those of its kind, entry by entry. -/
def ByKind.insert (timelines : ByKind (List α)) (kindOf : α → Kind) (stamp : α → Moment) (x : α) :
    Except Error (ByKind (List α)) := do
  return timelines.set (kindOf x) (← Timeline.insert stamp x (timelines.get (kindOf x)))

theorem ByKind.insert_eq_ok {timelines : ByKind (List α)} {timeline : List α}
    (h : Timeline.insert stamp x (timelines.get (kindOf x)) = .ok timeline) :
    timelines.insert kindOf stamp x = .ok (timelines.set (kindOf x) timeline) := by
  rw [insert, h]
  rfl

theorem ByKind.insert_eq_error {timelines : ByKind (List α)} {e : Error}
    (h : Timeline.insert stamp x (timelines.get (kindOf x)) = .error e) :
    timelines.insert kindOf stamp x = .error e := by
  rw [insert, h, error_bind]

end Attempts

/-! ## Timelines -/

namespace Indexed

variable {timeline : Indexed α}

/-- Whether a timeline stores entries that were placed one after the other, and their moments. -/
structure Stores (stamp : α → Moment) (kept : List α) (timeline : Indexed α) : Prop where
  alike : ∃ aware, Alike stamp aware kept
  entries_eq : timeline.entries = arranged stamp kept
  moments_eq : timeline.moments = timeline.entries.map stamp

namespace Stores

theorem empty : (Indexed.empty : Indexed α).Stores stamp [] := ⟨⟨true, nofun⟩, rfl, rfl⟩

theorem mem_iff (h : timeline.Stores stamp kept) : x ∈ timeline.entries ↔ x ∈ kept :=
  h.entries_eq ▸ arranged_perm.mem_iff

theorem ordered (h : timeline.Stores stamp kept) : Ordered stamp timeline.entries :=
  h.entries_eq ▸ arranged_ordered

theorem alike_entries (h : timeline.Stores stamp kept) :
    ∃ aware, Alike stamp aware timeline.entries :=
  h.alike.imp fun _ halike => h.entries_eq ▸ halike.arranged

theorem sorted_moments (h : timeline.Stores stamp kept) :
    Sorting.Sorted Moment.instant timeline.moments := by
  rw [h.moments_eq]
  exact List.pairwise_map.2 h.ordered

/-- A moment is that of an entry. -/
theorem mem_moments_iff (h : timeline.Stores stamp kept) :
    moment ∈ timeline.moments ↔ ∃ y ∈ timeline.entries, stamp y = moment := by
  rw [h.moments_eq, List.mem_map]

theorem moments_length (h : timeline.Stores stamp kept) :
    timeline.moments.length = timeline.entries.length := by
  rw [h.moments_eq, List.length_map]

/-- Halving the list of moments finds the boundary of the entries below a bound. -/
theorem bisect_eq_ok (h : timeline.Stores stamp kept) (inFront : Moment → Except Error Bool)
    (bound : Int) (hinFront : ∀ y ∈ timeline.entries,
      inFront (stamp y) = .ok (decide ((stamp y).instant < bound))) :
    ∃ n, Sorting.bisect inFront timeline.moments 0 timeline.moments.length = .ok n ∧
      n ≤ timeline.entries.length ∧
      (∀ y ∈ timeline.entries.take n, (stamp y).instant < bound) ∧
      ∀ y ∈ timeline.entries.drop n, bound ≤ (stamp y).instant := by
  have hmoments : ∀ other ∈ timeline.moments,
      inFront other = .ok (decide (other.instant < bound)) := by
    intro other hother
    obtain ⟨y, hy, rfl⟩ := h.mem_moments_iff.1 hother
    exact hinFront y hy
  obtain ⟨n, hn, hfront, hback⟩ := Sorting.boundary_of_sorted bound h.sorted_moments hmoments
  have hlength := hn.le_length
  rw [h.moments_eq, ← List.map_take] at hfront
  rw [h.moments_eq, ← List.map_drop] at hback
  exact ⟨n, hn.bisect_eq (Nat.zero_le n) hlength (Nat.le_refl _), h.moments_length ▸ hlength,
    fun y hy => hfront _ (List.mem_map_of_mem hy), fun y hy => hback _ (List.mem_map_of_mem hy)⟩

/-- The place behind the entries that are not later. -/
theorem placeBehind_eq_ok (h : timeline.Stores stamp kept)
    (halike : Alike stamp moment.isAware timeline.entries) :
    ∃ n, timeline.placeBehind moment = .ok n ∧ n ≤ timeline.entries.length ∧
      (∀ y ∈ timeline.entries.take n, (stamp y).instant ≤ moment.instant) ∧
      ∀ y ∈ timeline.entries.drop n, moment.instant < (stamp y).instant := by
  have hinFront : ∀ y ∈ timeline.entries,
      (do return !(← moment.before (stamp y)) : Except Error Bool) =
        .ok (decide ((stamp y).instant < moment.instant + 1)) := by
    intro y hy
    rw [Moment.before_ok_of_isAware_eq (halike y hy).symm, ok_bind, pure_eq_ok, ← decide_not]
    exact congrArg Except.ok (decide_eq_decide.2 (by omega))
  obtain ⟨n, hn, hlength, hfront, hback⟩ :=
    h.bisect_eq_ok (fun other => do return !(← moment.before other)) _ hinFront
  exact ⟨n, hn, hlength, fun y hy => Int.lt_add_one_iff.1 (hfront y hy),
    fun y hy => Int.lt_of_add_one_le (hback y hy)⟩

/-- The place of the first entry that is not earlier. -/
theorem placeOf_eq_ok (h : timeline.Stores stamp kept)
    (halike : Alike stamp moment.isAware timeline.entries) :
    ∃ n, timeline.placeOf moment = .ok n ∧ n ≤ timeline.entries.length ∧
      (∀ y ∈ timeline.entries.take n, (stamp y).instant < moment.instant) ∧
      ∀ y ∈ timeline.entries.drop n, moment.instant ≤ (stamp y).instant :=
  h.bisect_eq_ok _ _ fun y hy => Moment.before_ok_of_isAware_eq (halike y hy)

/-- Where no moment has an answer, a search among entries fails. -/
theorem bisect_eq_error (h : timeline.Stores stamp kept) {inFront : Moment → Except Error Bool}
    (hopposed : Opposed stamp timeline.entries moment)
    (hinFront : ∀ other : Moment, other.isAware ≠ moment.isAware →
      inFront other = .error .mixedAwareness) :
    Sorting.bisect inFront timeline.moments 0 timeline.moments.length = .error .mixedAwareness := by
  have hpos : 0 < timeline.moments.length :=
    h.moments_length ▸ List.length_pos_iff.2 hopposed.1
  refine Sorting.bisect_eq_error (fun other hother => hinFront other ?_) hpos (Nat.le_refl _)
  obtain ⟨y, hy, rfl⟩ := h.mem_moments_iff.1 hother
  exact hopposed.2 y hy

theorem placeBehind_eq_error (h : timeline.Stores stamp kept)
    (hopposed : Opposed stamp timeline.entries moment) :
    timeline.placeBehind moment = .error .mixedAwareness := by
  refine h.bisect_eq_error hopposed fun other hother => ?_
  rw [Moment.before_error_iff.2 ⟨hother.symm, rfl⟩, error_bind]

theorem placeOf_eq_error (h : timeline.Stores stamp kept)
    (hopposed : Opposed stamp timeline.entries moment) :
    timeline.placeOf moment = .error .mixedAwareness :=
  h.bisect_eq_error hopposed fun _ hother => Moment.before_error_iff.2 ⟨hother, rfl⟩

/-- A query finds what it finds entry by entry, and fails where that fails. -/
theorem since_eq_sinceOr (h : timeline.Stores stamp kept) (start : Option Moment) :
    timeline.since start = sinceOr stamp start timeline.entries := by
  obtain ⟨aware, halike⟩ := h.alike_entries
  cases start with
  | none => rfl
  | some start =>
    rcases halike.alike_or_opposed start with hstart | hopposed
    · obtain ⟨n, hn, -, hfront, hback⟩ := h.placeOf_eq_ok hstart
      rw [since, hn, ok_bind, sinceOr, since_eq_ok hstart h.ordered, cutAt_eq_drop hfront hback]
      rfl
    · rw [since, h.placeOf_eq_error hopposed, error_bind, sinceOr, since_eq_error hopposed]

/-- A query fails if its moment cannot be compared with the entries; otherwise it finds the entries
from its moment on. -/
theorem since_cases (h : timeline.Stores stamp kept) (start : Option Moment) :
    ((∃ moment, start = some moment ∧ Opposed stamp timeline.entries moment) ∧
      timeline.since start = .error .mixedAwareness) ∨
    ((∀ moment, start = some moment → Alike stamp moment.isAware timeline.entries) ∧
      timeline.since start = .ok (timeline.entries.filter fun x =>
        start.all fun moment => decide (moment.instant ≤ (stamp x).instant))) := by
  obtain ⟨aware, halike⟩ := h.alike_entries
  rw [h.since_eq_sinceOr]
  cases start with
  | none => exact .inr ⟨nofun, congrArg Except.ok (List.filter_true _).symm⟩
  | some moment =>
    rcases halike.alike_or_opposed moment with hmoment | hopposed
    · exact .inr ⟨fun _ heq => Option.some.inj heq ▸ hmoment, since_eq_ok hmoment h.ordered⟩
    · exact .inl ⟨⟨moment, rfl, hopposed⟩, since_eq_error hopposed⟩

/-- An entry and its moment, each inserted behind those that are not later. -/
theorem insertIdx {n : Nat} (h : timeline.Stores stamp kept)
    (halike : Alike stamp (stamp x).isAware timeline.entries) (hn : n ≤ timeline.entries.length)
    (hfront : ∀ y ∈ timeline.entries.take n, (stamp y).instant ≤ (stamp x).instant)
    (hback : ∀ y ∈ timeline.entries.drop n, (stamp x).instant < (stamp y).instant) :
    Stores stamp (kept ++ [x])
      ⟨timeline.entries.insertIdx n x, timeline.moments.insertIdx n (stamp x)⟩ where
  alike := by
    have hkept : Alike stamp (stamp x).isAware kept := fun y hy => halike y (h.mem_iff.2 hy)
    exact ⟨_, List.forall_mem_append.2 ⟨hkept, List.forall_mem_singleton.2 rfl⟩⟩
  entries_eq := by
    rw [arranged_append_singleton, ← h.entries_eq, place_eq_insertIdx hn hfront hback]
  moments_eq := by rw [h.moments_eq, List.map_insertIdx]

end Stores

end Indexed

/-! ## Logs -/

namespace IndexedLog

variable {log : IndexedLog α}

/-- Whether a log stores, for each kind, the entries of a list that are of the kind. -/
def Stores (kindOf : α → Kind) (stamp : α → Moment) (kept : List α) (log : IndexedLog α) : Prop :=
  ∀ kind, (log.ofKind kind).Stores stamp (kept.filter (kindOf · = kind))

theorem stores_empty : (empty : IndexedLog α).Stores kindOf stamp [] := by
  intro kind
  rw [ofKind, empty, ByKind.get_replicate]
  exact .empty

/-- The log with an entry and its moment at a place of a kind. -/
theorem ofKind_inserted (log : IndexedLog α) (kind other : Kind) (n : Nat) (x : α)
    (moment : Moment) :
    ((log.insertEntry kind n x).insertMoment kind n moment).ofKind other =
      if other = kind then
        ⟨(log.ofKind kind).entries.insertIdx n x, (log.ofKind kind).moments.insertIdx n moment⟩
      else log.ofKind other := by
  split
  · rename_i hother
    rw [hother]
    simp [ofKind, insertEntry, insertMoment]
  · rename_i hother
    simp [ofKind, insertEntry, insertMoment, ByKind.get_modify_of_ne _ _ hother]

/-- Appending is finding a place and changing the log there. -/
theorem append_run (log : IndexedLog α) (x : α) :
    (append kindOf stamp x).run log =
      match (log.ofKind (kindOf x)).placeBehind (stamp x) with
      | .ok n => (.ok (), (log.insertEntry (kindOf x) n x).insertMoment (kindOf x) n (stamp x))
      | .error e => (.error e, log) := by
  change (ExceptT.run (do
    let n ← liftM ((log.ofKind (kindOf x)).placeBehind (stamp x))
    modify (·.insertEntry (kindOf x) n x)
    modify (·.insertMoment (kindOf x) n (stamp x)) :
      ExceptT Error (StateM (IndexedLog α)) Unit)) log = _
  cases (log.ofKind (kindOf x)).placeBehind (stamp x) <;> rfl

/-- An entry is appended if it can be compared with those of its kind; otherwise it is refused and
changes nothing. -/
theorem Stores.append_cases (h : log.Stores kindOf stamp kept) (x : α) :
    (Alike stamp (stamp x).isAware (log.ofKind (kindOf x)).entries ∧
      ∃ log', (append kindOf stamp x).run log = (.ok (), log') ∧
        log'.Stores kindOf stamp (kept ++ [x])) ∨
    (Opposed stamp (log.ofKind (kindOf x)).entries (stamp x) ∧
      (append kindOf stamp x).run log = (.error .mixedAwareness, log)) := by
  obtain ⟨aware, halike⟩ := (h (kindOf x)).alike_entries
  rcases halike.alike_or_opposed (stamp x) with hx | hopposed
  · obtain ⟨n, hn, hlength, hfront, hback⟩ := (h (kindOf x)).placeBehind_eq_ok hx
    refine .inl ⟨hx, _, by rw [append_run, hn], fun kind => ?_⟩
    rw [ofKind_inserted, List.filter_append]
    by_cases hkind : kind = kindOf x
    · subst hkind
      simpa using (h (kindOf x)).insertIdx hx hlength hfront hback
    · simpa [hkind, Ne.symm hkind] using h kind
  · refine .inr ⟨hopposed, ?_⟩
    rw [append_run, (h (kindOf x)).placeBehind_eq_error hopposed]

/-! ## Attempts -/

/-- The state after an attempt to append: the entries whose attempt succeeded, and the log. -/
def attempt (kindOf : α → Kind) (stamp : α → Moment) (state : List α × IndexedLog α) (x : α) :
    List α × IndexedLog α :=
  match (append kindOf stamp x).run state.2 with
  | (.ok _, log) => (state.1 ++ [x], log)
  | (.error _, log) => (state.1, log)

/-- The state after attempts to append, one after the other, to the log without entries. -/
def run (kindOf : α → Kind) (stamp : α → Moment) (attempts : List α) : List α × IndexedLog α :=
  attempts.foldl (attempt kindOf stamp) ([], .empty)

theorem run_append_singleton (attempts : List α) (x : α) :
    run kindOf stamp (attempts ++ [x]) = attempt kindOf stamp (run kindOf stamp attempts) x :=
  List.foldl_concat ..

/-- Whatever is attempted, the log stores the entries whose attempt succeeded. -/
theorem stores_run (attempts : List α) :
    (run kindOf stamp attempts).2.Stores kindOf stamp (run kindOf stamp attempts).1 := by
  induction attempts using List.reverseRecOn with
  | nil => exact stores_empty
  | append_singleton attempts x ih =>
    rw [run_append_singleton, attempt]
    rcases ih.append_cases x with ⟨-, log', happend, h'⟩ | ⟨-, happend⟩
    · rw [happend]
      exact h'
    · rw [happend]
      exact ih

/-! ## The same, entry by entry -/

/-- The entries of a log with one entry more. -/
theorem Stores.entries_of_append {log' : IndexedLog α} (h : log.Stores kindOf stamp kept)
    (h' : log'.Stores kindOf stamp (kept ++ [x])) (kind : Kind) :
    (log'.ofKind kind).entries =
      if kind = kindOf x then place stamp x (log.ofKind kind).entries
      else (log.ofKind kind).entries := by
  rw [(h' kind).entries_eq, (h kind).entries_eq, List.filter_append]
  by_cases hkind : kind = kindOf x
  · simp [hkind, arranged_append_singleton]
  · simp [hkind, Ne.symm hkind]

/-- An entry is placed where it is appended, and cannot be placed where it is refused. -/
theorem Stores.insert_cases (h : log.Stores kindOf stamp kept) (x : α) :
    (insert stamp x (log.ofKind (kindOf x)).entries =
        .ok (place stamp x (log.ofKind (kindOf x)).entries) ∧
      ∃ log', (append kindOf stamp x).run log = (.ok (), log') ∧
        log'.Stores kindOf stamp (kept ++ [x])) ∨
    (insert stamp x (log.ofKind (kindOf x)).entries = .error .mixedAwareness ∧
      (append kindOf stamp x).run log = (.error .mixedAwareness, log)) := by
  rcases h.append_cases x with ⟨halike, happend⟩ | ⟨hopposed, happend⟩
  · exact .inl ⟨insert_eq_ok halike, happend⟩
  · exact .inr ⟨insert_eq_error hopposed, happend⟩

/-- After the same attempts to append to a log that places entry by entry, the entries are the
same. -/
theorem get_afterAttempts {σ : Type} {appendTo : σ → α → Except Error σ} {start : σ}
    (timelines : σ → ByKind (List α)) (hstart : timelines start = .replicate [])
    (happendTo : ∀ s x, (timelines s).insert kindOf stamp x = timelines <$> appendTo s x)
    (attempts : List α) (kind : Kind) :
    (timelines (afterAttempts appendTo start attempts)).get kind =
      ((run kindOf stamp attempts).2.ofKind kind).entries := by
  induction attempts using List.reverseRecOn generalizing kind with
  | nil =>
    change (timelines start).get kind = ((empty : IndexedLog α).ofKind kind).entries
    rw [hstart, ofKind, empty, ByKind.get_replicate, ByKind.get_replicate]
    rfl
  | append_singleton attempts x ih =>
    have h : (run kindOf stamp attempts).2.Stores kindOf stamp (run kindOf stamp attempts).1 :=
      stores_run attempts
    rw [run_append_singleton, attempt]
    rcases h.insert_cases x with ⟨hinsert, log', happend, h'⟩ | ⟨hinsert, happend⟩
    · rw [← ih] at hinsert
      have hplaced := (happendTo _ x).symm.trans (ByKind.insert_eq_ok hinsert)
      obtain ⟨s, hs, htimelines⟩ := map_eq_ok_iff.1 hplaced
      rw [afterAttempts_of_ok hs, htimelines, happend, h.entries_of_append h' kind]
      by_cases hkind : kind = kindOf x
      · rw [if_pos hkind, hkind, ByKind.get_set_self, ih]
      · rw [if_neg hkind, ByKind.get_set_of_ne _ _ hkind, ih]
    · rw [← ih] at hinsert
      have hrefused := (happendTo _ x).symm.trans (ByKind.insert_eq_error hinsert)
      rw [afterAttempts_of_error (map_eq_error_iff.1 hrefused), happend]
      exact ih kind

end IndexedLog

end Chronicle
