import Chronicle.Proofs.History.Indexed

/-!
# When an entity was created

The log of additions is scanned for the first addition of an entity and cut for the later ones. Both
are right because the additions of a kind are always arranged by their moments, whatever the order
in which they were appended, and however often an entity was added.

## Main definitions

* `Timeline.Earliest` — the earliest entry of a list.
* `IndexedAdditions.run` — attempts to append, and which of them succeeded.
* `IndexedAdditions.Answers` — what an indexed log answers, in terms of what was appended.
* `IndexedAdditions.Mirrors` — an indexed log that answers as one that is searched entry by entry.

## Main statements

* `IndexedAdditions.run_answers` — the log after any attempts.
-/

namespace Chronicle

open Timeline

/-! ## The earliest entry -/

namespace Timeline

variable {α : Type} {stamp : α → Moment} {first : α} {xs : List α}

/-- Whether an entry is the earliest of a list, and the first of those at its instant. -/
def Earliest (stamp : α → Moment) (xs : List α) (first : α) : Prop :=
  ∃ front back, xs = front ++ first :: back ∧
    (∀ y ∈ front, (stamp first).instant < (stamp y).instant) ∧
    ∀ y ∈ back, (stamp first).instant ≤ (stamp y).instant

/-- An arranged list starts with the earliest entry. -/
theorem earliest_of_head? (h : (arranged stamp xs).head? = some first) :
    Earliest stamp xs first := by
  obtain ⟨rest, hrest⟩ := List.head?_eq_some_iff.1 h
  exact split_of_arranged hrest

end Timeline

/-! ## The log of additions -/

theorem AdditionLog.timelines_append (log : AdditionLog) (a : Addition) :
    log.timelines.insert Addition.kind Addition.timestamp a =
      timelines <$> log.append a := by
  rw [ByKind.insert, append, ofKind]
  cases insert Addition.timestamp a (log.timelines.get a.kind) <;> rfl

namespace IndexedAdditions

variable {kept : List Addition} {log : IndexedAdditions} {plain : AdditionLog} {kind : Kind}
  {id : Int} {cutoff later t : Moment}

/-- Attempts to append, one after the other: the additions whose attempt succeeded, and the log. -/
def run (attempts : List Addition) : List Addition × IndexedAdditions :=
  IndexedLog.run Addition.kind Addition.timestamp attempts

/-- Whether a moment can be compared with the additions of a kind. -/
def Comparable (log : IndexedAdditions) (kind : Kind) (moment : Moment) : Prop :=
  Alike Addition.timestamp moment.isAware (log.ofKind kind).entries

/-- What an indexed log answers where just the attempts to append `kept` succeeded. -/
structure Answers (kept : List Addition) (log : IndexedAdditions) : Prop where
  createdAt_none : ∀ kind id, createdAt log kind id = none ↔
    ∀ a ∈ kept, ¬ (a.kind = kind ∧ a.entityId = id)
  createdAt_some : ∀ kind id t, createdAt log kind id = some t →
    ∃ first, first.timestamp = t ∧
      Earliest Addition.timestamp (kept.filter fun a => a.kind = kind ∧ a.entityId = id) first
  addedSince_eq : ∀ kind id cutoff, Comparable log kind cutoff →
    addedSince log kind id (some cutoff) = .ok (decide (∃ a ∈ kept,
      a.kind = kind ∧ a.entityId = id ∧ cutoff.instant ≤ a.timestamp.instant))
  addedSince_antitone : ∀ kind id cutoff later, Comparable log kind cutoff →
    Comparable log kind later → cutoff.instant ≤ later.instant →
    addedSince log kind id (some later) = .ok true → addedSince log kind id (some cutoff) = .ok true
  addedSince_of_createdAt : ∀ kind id cutoff t, Comparable log kind cutoff →
    createdAt log kind id = some t → cutoff.instant ≤ t.instant →
    addedSince log kind id (some cutoff) = .ok true
  entries_eq : ∀ kind since, (∀ start, since = some start → Comparable log kind start) →
    entries log kind since = .ok (stableSort Addition.timestamp (kept.filter fun a =>
      a.kind = kind ∧ ∀ start, since = some start → start.instant ≤ a.timestamp.instant))

/-- An indexed log that answers as one that is searched entry by entry. -/
structure Mirrors (plain : AdditionLog) (log : IndexedAdditions) : Prop where
  ofKind_eq : ∀ kind, plain.ofKind kind = (log.ofKind kind).entries
  append_fails : ∀ a, (∃ e, plain.append a = .error e) ↔ ∃ e, ((append a).run log).1 = .error e
  entries_eq : ∀ kind since, plain.entries kind since = entries log kind since
  createdAt_eq : ∀ kind id, plain.createdAt kind id = createdAt log kind id
  addedSince_eq : ∀ kind id cutoff, plain.addedSince kind id cutoff = addedSince log kind id cutoff
  count_eq : ∀ kind, plain.count kind = log.count kind

/-- The log stores the additions of a list. -/
abbrev Stores (kept : List Addition) (log : IndexedAdditions) : Prop :=
  IndexedLog.Stores Addition.kind Addition.timestamp kept log

/-- The additions of an entity, in the order of the log. -/
theorem filter_entries (h : Stores kept log) (kind : Kind) (p : Addition → Bool) :
    (log.ofKind kind).entries.filter p =
      arranged Addition.timestamp (kept.filter fun a => a.kind = kind ∧ p a) := by
  rw [(h kind).entries_eq, filter_arranged, List.filter_filter]
  refine congrArg _ (List.filter_congr fun a _ => ?_)
  rw [Bool.decide_and, Bool.and_comm, Bool.decide_eq_true]

theorem createdAt_eq (h : Stores kept log) (kind : Kind) (id : Int) :
    createdAt log kind id =
      (arranged Addition.timestamp
        (kept.filter fun a => a.kind = kind ∧ a.entityId = id)).head?.map Addition.timestamp := by
  rw [createdAt, ← List.head?_filter, filter_entries h]
  simp only [beq_iff_eq]

theorem entries_eq_ok {since : Option Moment} (h : Stores kept log)
    (hsince : ∀ start, since = some start → Comparable log kind start) :
    entries log kind since = .ok (arranged Addition.timestamp (kept.filter fun a =>
      a.kind = kind ∧ ∀ start, since = some start → start.instant ≤ a.timestamp.instant)) := by
  rcases (h kind).since_cases since with ⟨⟨start, hstart, hopposed⟩, -⟩ | ⟨-, hfound⟩
  · exact absurd (hsince start hstart) hopposed.not_alike
  · rw [entries, hfound, filter_entries h]
    cases since <;> simp

theorem addedSince_eq_ok (h : Stores kept log) (hcutoff : Comparable log kind cutoff) :
    addedSince log kind id (some cutoff) = .ok (decide (∃ a ∈ kept,
      a.kind = kind ∧ a.entityId = id ∧ cutoff.instant ≤ a.timestamp.instant)) := by
  rw [addedSince, entries_eq_ok h fun start hstart => Option.some.inj hstart ▸ hcutoff, ok_bind,
    pure_eq_ok, arranged_perm.any_eq, List.any_filter, List.any_eq]
  refine congrArg Except.ok (decide_eq_decide.2 (exists_congr fun a => and_congr_right fun _ => ?_))
  grind

theorem addedSince_eq_true (h : Stores kept log) (hcutoff : Comparable log kind cutoff) :
    addedSince log kind id (some cutoff) = .ok true ↔ ∃ a ∈ kept,
      a.kind = kind ∧ a.entityId = id ∧ cutoff.instant ≤ a.timestamp.instant := by
  rw [addedSince_eq_ok h hcutoff, Except.ok.injEq, decide_eq_true_iff]

/-- The moment of creation is that of an addition. -/
theorem exists_of_createdAt (h : Stores kept log) (hcreated : createdAt log kind id = some t) :
    ∃ first, first.timestamp = t ∧
      Earliest Addition.timestamp (kept.filter fun a => a.kind = kind ∧ a.entityId = id) first := by
  rw [createdAt_eq h] at hcreated
  obtain ⟨first, hfirst, htime⟩ := Option.map_eq_some_iff.1 hcreated
  exact ⟨first, htime, earliest_of_head? hfirst⟩

theorem answers_of_stores (h : Stores kept log) : Answers kept log where
  createdAt_none kind id := by
    rw [createdAt_eq h, Option.map_eq_none_iff, List.head?_eq_none_iff, arranged_eq_nil_iff,
      List.filter_eq_nil_iff]
    simp only [decide_eq_true_eq]
  createdAt_some kind id t := exists_of_createdAt h
  addedSince_eq kind id cutoff := addedSince_eq_ok h
  addedSince_antitone kind id cutoff later hcutoff hlater hle hfound := by
    obtain ⟨a, ha, hkind, hid, hsince⟩ := (addedSince_eq_true h hlater).1 hfound
    exact (addedSince_eq_true h hcutoff).2 ⟨a, ha, hkind, hid, Int.le_trans hle hsince⟩
  addedSince_of_createdAt kind id cutoff t hcutoff hcreated hle := by
    obtain ⟨first, rfl, front, back, hsplit, -, -⟩ := exists_of_createdAt h hcreated
    have hfirst : first ∈ kept.filter fun a => a.kind = kind ∧ a.entityId = id := by
      rw [hsplit]
      exact List.mem_append_right front List.mem_cons_self
    obtain ⟨hmem, hentity⟩ := List.mem_filter.1 hfirst
    obtain ⟨hkind, hid⟩ := of_decide_eq_true hentity
    exact (addedSince_eq_true h hcutoff).2 ⟨first, hmem, hkind, hid, hle⟩
  entries_eq kind since hsince := by
    rw [entries_eq_ok h hsince, stableSort_eq_arranged]

/-- A log with the same entries, searched entry by entry, answers the same. -/
theorem mirrors_of_stores (h : Stores kept log)
    (hplain : ∀ kind, plain.ofKind kind = (log.ofKind kind).entries) : Mirrors plain log where
  ofKind_eq := hplain
  append_fails a := by
    rw [AdditionLog.append, hplain, append]
    rcases h.insert_cases a with ⟨hinsert, log', happend, -⟩ | ⟨hinsert, happend⟩
    · simp [hinsert, happend]
    · simp [hinsert, happend]
  entries_eq kind since := by
    rw [entries, (h kind).since_eq_sinceOr, ← hplain, AdditionLog.entries]
  createdAt_eq kind id := by
    rw [createdAt, ← hplain, AdditionLog.createdAt]
  addedSince_eq kind id cutoff := by
    rw [addedSince, entries, (h kind).since_eq_sinceOr, ← hplain, AdditionLog.addedSince,
      AdditionLog.entries]
  count_eq kind := congrArg List.length (hplain kind)

/-- After any attempts to append, in any order and with entities that are added again, the log
answers when an entity was first added, and since when it was; searching it entry by entry comes to
the same. -/
theorem run_answers (attempts : List Addition) :
    Answers (run attempts).1 (run attempts).2 ∧
      Mirrors (afterAttempts AdditionLog.append .empty attempts) (run attempts).2 := by
  have hstores : Stores (run attempts).1 (run attempts).2 := IndexedLog.stores_run attempts
  have hplain := IndexedLog.get_afterAttempts AdditionLog.timelines rfl
    AdditionLog.timelines_append attempts
  exact ⟨answers_of_stores hstores, mirrors_of_stores hstores hplain⟩

end IndexedAdditions

end Chronicle
