import Chronicle.Proofs.History.Indexed

/-!
# The log of modifications refines a list

Appending modifications to a list and sorting the list of a kind stably whenever the kind is asked
for is all that the log of modifications does. It does not matter whether it looks for places entry
by entry or by halving a list of moments.

## Main definitions

* `IndexedModifications.run` — attempts to append, and which of them succeeded.
* `IndexedModifications.Refines` — what an indexed log comes to, in terms of what was appended.
* `IndexedModifications.Mirrors` — an indexed log that answers as one that is searched entry by
  entry.

## Main statements

* `IndexedModifications.run_refines` — the log after any attempts.
-/

namespace Chronicle

open Timeline

theorem ModificationLog.timelines_append (log : ModificationLog) (m : Modification) :
    log.timelines.insert Modification.kind Modification.timestamp m =
      timelines <$> log.append m := by
  rw [ByKind.insert, append, ofKind]
  cases insert Modification.timestamp m (log.timelines.get m.kind) <;> rfl

namespace IndexedModifications

variable {kept : List Modification} {log : IndexedModifications} {plain : ModificationLog}
  {m : Modification} {kind : Kind}

/-- Attempts to append, one after the other: the modifications whose attempt succeeded, and the
log. -/
def run (attempts : List Modification) : List Modification × IndexedModifications :=
  IndexedLog.run Modification.kind Modification.timestamp attempts

/-- What an indexed log comes to where just the attempts to append `kept` succeeded. -/
structure Refines (kept : List Modification) (log : IndexedModifications) : Prop where
  /-- A further attempt fails where the kind has entries and these are of the other awareness, -/
  append_fails : ∀ m, (∃ e, ((append m).run log).1 = .error e) ↔
    Opposed Modification.timestamp (log.ofKind m.kind).entries m.timestamp
  /-- and one that fails changes nothing. -/
  append_keeps : ∀ m e, ((append m).run log).1 = .error e → ((append m).run log).2 = log
  alike : ∀ kind, ∃ aware, Alike Modification.timestamp aware (log.ofKind kind).entries
  entries_eq : ∀ kind, (log.ofKind kind).entries =
    stableSort Modification.timestamp (kept.filter (·.kind = kind))
  moments_eq : ∀ kind,
    (log.ofKind kind).moments = (log.ofKind kind).entries.map Modification.timestamp
  /-- A query fails where the kind has entries and these are of the other awareness than the moment
  it asks for, -/
  query_fails : ∀ kind filter, (∃ e, entries log kind filter = .error e) ↔
    ∃ start, filter.since = some start ∧
      Opposed Modification.timestamp (log.ofKind kind).entries start
  /-- and what it finds otherwise is selected from the sorted list. -/
  query_finds : ∀ kind filter found, entries log kind filter = .ok found →
    found = (stableSort Modification.timestamp (kept.filter (·.kind = kind))).filter fun m =>
      filter.entityId.all (m.entityId == ·) &&
        filter.since.all (fun start => decide (start.instant ≤ m.timestamp.instant)) &&
        filter.name.all (m.carries · filter.sentinel)
  firstEntry_eq : ∀ kind filter, firstEntry log kind filter = List.head? <$> entries log kind filter
  count_eq : ∀ kind, log.count kind = kept.countP (·.kind = kind)

/-- An indexed log that answers as one that is searched entry by entry. -/
structure Mirrors (plain : ModificationLog) (log : IndexedModifications) : Prop where
  ofKind_eq : ∀ kind, plain.ofKind kind = (log.ofKind kind).entries
  append_fails : ∀ m, (∃ e, plain.append m = .error e) ↔ ∃ e, ((append m).run log).1 = .error e
  entries_eq : ∀ kind filter, plain.entries kind filter = entries log kind filter
  firstEntry_eq : ∀ kind filter, plain.firstEntry kind filter = firstEntry log kind filter
  count_eq : ∀ kind, plain.count kind = log.count kind

/-- The log stores the modifications of a list. -/
abbrev Stores (kept : List Modification) (log : IndexedModifications) : Prop :=
  IndexedLog.Stores Modification.kind Modification.timestamp kept log

/-- A query fails if the kind has entries that cannot be compared with its moment; otherwise it
selects from the entries of the kind. -/
theorem entries_cases (h : Stores kept log) (kind : Kind) (filter : ModificationFilter) :
    ((∃ start, filter.since = some start ∧
        Opposed Modification.timestamp (log.ofKind kind).entries start) ∧
      entries log kind filter = .error .mixedAwareness) ∨
    ((∀ start, filter.since = some start →
        Alike Modification.timestamp start.isAware (log.ofKind kind).entries) ∧
      entries log kind filter = .ok ((log.ofKind kind).entries.filter filter.selects)) := by
  refine ((h kind).since_cases filter.since).imp (And.imp_right fun hsince => ?_)
    (And.imp_right fun hsince => ?_)
  · rw [entries, hsince, error_bind]
  · rw [entries, hsince, ok_bind, pure_eq_ok, List.filter_filter]
    exact congrArg Except.ok (List.filter_congr fun m _ => Bool.and_comm ..)

/-! ## Refinement -/

theorem refines_of_stores (h : Stores kept log) : Refines kept log where
  append_fails m := by
    rcases h.append_cases m with ⟨halike, log', happend, -⟩ | ⟨hopposed, happend⟩
    · rw [append, happend]
      exact iff_of_false nofun fun hopposed => hopposed.not_alike halike
    · rw [append, happend]
      exact iff_of_true ⟨_, rfl⟩ hopposed
  append_keeps m e := by
    rcases h.append_cases m with ⟨-, log', happend, -⟩ | ⟨-, happend⟩
    · rw [append, happend]
      exact nofun
    · rw [append, happend]
      exact fun _ => rfl
  alike kind := (h kind).alike_entries
  entries_eq kind := (h kind).entries_eq.trans stableSort_eq_arranged.symm
  moments_eq kind := (h kind).moments_eq
  query_fails kind filter := by
    rcases entries_cases h kind filter with ⟨hopposed, hentries⟩ | ⟨halike, hentries⟩
    · rw [hentries]
      exact iff_of_true ⟨_, rfl⟩ hopposed
    · rw [hentries]
      exact iff_of_false nofun fun ⟨start, hstart, hopposed⟩ =>
        hopposed.not_alike (halike start hstart)
  query_finds kind filter found hfound := by
    rcases entries_cases h kind filter with ⟨-, hentries⟩ | ⟨-, hentries⟩
    · rw [hentries] at hfound
      cases hfound
    · rw [hentries, (h kind).entries_eq, ← stableSort_eq_arranged] at hfound
      rw [← Except.ok.inj hfound]
      refine List.filter_congr fun m _ => ?_
      rw [ModificationFilter.selects, ModificationFilter.accepts_eq, Bool.and_left_comm,
        Bool.and_assoc]
  firstEntry_eq kind filter := by
    rw [firstEntry]
    cases entries log kind filter <;> rfl
  count_eq kind := by
    rw [IndexedLog.count, (h kind).entries_eq, arranged_perm.length_eq,
      List.countP_eq_length_filter]

/-- A log with the same entries, searched entry by entry, answers the same. -/
theorem mirrors_of_stores (h : Stores kept log)
    (hplain : ∀ kind, plain.ofKind kind = (log.ofKind kind).entries) : Mirrors plain log where
  ofKind_eq := hplain
  append_fails m := by
    rw [ModificationLog.append, hplain, append]
    rcases h.insert_cases m with ⟨hinsert, log', happend, -⟩ | ⟨hinsert, happend⟩
    · simp [hinsert, happend]
    · simp [hinsert, happend]
  entries_eq kind filter := by
    rw [entries, (h kind).since_eq_sinceOr, ← hplain, ModificationLog.entries]
  firstEntry_eq kind filter := by
    rw [firstEntry, entries, (h kind).since_eq_sinceOr, ← hplain, ModificationLog.firstEntry,
      ModificationLog.entries]
  count_eq kind := congrArg List.length (hplain kind)

/-- After any attempts to append, in any order and with moments of either awareness, the log is
that of a list to which the modifications whose attempt succeeded were added; searching it entry by
entry comes to the same. -/
theorem run_refines (attempts : List Modification) :
    Refines (run attempts).1 (run attempts).2 ∧
      Mirrors (afterAttempts ModificationLog.append .empty attempts) (run attempts).2 := by
  have hstores : Stores (run attempts).1 (run attempts).2 := IndexedLog.stores_run attempts
  have hplain := IndexedLog.get_afterAttempts ModificationLog.timelines rfl
    ModificationLog.timelines_append attempts
  exact ⟨refines_of_stores hstores, mirrors_of_stores hstores hplain⟩

end IndexedModifications

end Chronicle
