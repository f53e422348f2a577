import Chronicle.Proofs.Relational.Correspondence

/-!
# Snapshots of the recording stand-in

A snapshot neither writes nor locks, so it leaves the rows of the stand-in and its next key. It does
use up query results and extends the record of calls. The record alone is never seen again.

## Main definitions

* `StandIn.Untouched` — whether a session has come from another without a write or a lock.
* `StandIn.SameContents` — sessions that differ at most in what they have recorded.

## Main statements

* `untouched_snapshot` — what a snapshot leaves.
* `StandIn.sameContents_simulates` — sessions with the same contents answer alike.
-/

namespace Chronicle.Relational

namespace StandIn

variable {s t u : StandIn}

/-- Whether a session has come from another by calls that neither write nor lock, with rows and next
key as they were. -/
structure Untouched (s t : StandIn) : Prop where
  rows : t.rows = s.rows
  nextKey : t.nextKey = s.nextKey
  trace : ∃ calls, t.trace = s.trace ++ calls ∧ ∀ c ∈ calls, c.writes = false

namespace Untouched

theorem refl (s : StandIn) : s.Untouched s where
  rows := rfl
  nextKey := rfl
  trace := ⟨[], by simp⟩

theorem trans (h : s.Untouched t) (h' : t.Untouched u) : s.Untouched u where
  rows := h'.rows.trans h.rows
  nextKey := h'.nextKey.trans h.nextKey
  trace := by
    obtain ⟨calls, htrace, hcalls⟩ := h.trace
    obtain ⟨more, htrace', hmore⟩ := h'.trace
    refine ⟨calls ++ more, ?_, List.forall_mem_append.2 ⟨hcalls, hmore⟩⟩
    rw [htrace', htrace, List.append_assoc]

end Untouched

/-- A call that neither writes nor locks leaves rows and next key. -/
theorem untouched_after {c : Call} (hc : c.writes = false) (s : StandIn) :
    s.Untouched (Session.after c s) := by
  cases c with
  | add | flush | refresh => cases hc
  | find table key lock =>
    exact ⟨rfl, rfl, [.find table key lock], rfl, by simpa using hc⟩
  | connect | start | isolate | execute | commit | rollback | disconnect =>
    exact ⟨rfl, rfl, _, rfl, List.forall_mem_singleton.2 rfl⟩

/-- A step of a snapshot neither writes nor locks. -/
theorem untouched_of_stepCalls (h : StepCalls true s t) : s.Untouched t := by
  cases h with
  | none => exact .refl s
  | query q => exact untouched_after rfl s
  | lookup kind id lock hlock =>
    exact untouched_after (c := .find (.entities kind) id lock) (hlock rfl) s
  | insert _ _ hwritable | save _ _ hwritable | modification _ _ hwritable
  | addition _ _ hwritable => cases hwritable

/-- Whether two sessions differ at most in what they have recorded. -/
structure SameContents (s t : StandIn) : Prop where
  rows : s.rows = t.rows
  nextKey : s.nextKey = t.nextKey
  results : s.results = t.results

/-- What a session has recorded is never seen again. -/
theorem sameContents_simulates : Session.Simulates SameContents where
  call c s t h := by
    obtain ⟨rows, nextKey, results, trace⟩ := s
    obtain ⟨rows', nextKey', results', trace'⟩ := t
    obtain ⟨rfl, rfl, rfl⟩ := h
    cases c <;> exact ⟨rfl, rfl, rfl, rfl⟩
  assign table key attributes s t h := by
    obtain ⟨rows, nextKey, results, trace⟩ := s
    obtain ⟨rows', nextKey', results', trace'⟩ := t
    obtain ⟨rfl, rfl, rfl⟩ := h
    exact ⟨rfl, rfl, rfl⟩

end StandIn

/-! ## Units of work -/

open StandIn

/-- Whether a storage has come from another without a write or a lock, and sets the same isolation
level. -/
structure Untouched (t u : RelationalStore StandIn) : Prop where
  session : t.session.Untouched u.session
  isolation : u.isolation = t.isolation

theorem untouched_entered (mode : Mode) (t : RelationalStore StandIn) :
    t.session.Untouched (t.entered mode) := by
  have hstart := (untouched_after (c := .connect) rfl t.session).trans
    (untouched_after (c := .start) rfl _)
  cases mode with
  | transaction => exact hstart
  | snapshot => exact hstart.trans (untouched_after (c := .isolate t.isolation) rfl _)

theorem untouched_left (failure : Option Error) (s : StandIn) :
    s.Untouched (RelationalStore.left failure s) := by
  cases failure with
  | none =>
    exact (untouched_after (c := .commit) rfl s).trans
      (untouched_after (c := .disconnect) rfl _)
  | some e =>
    exact (untouched_after (c := .rollback e) rfl s).trans
      (untouched_after (c := .disconnect) rfl _)

/-- A snapshot neither writes nor locks, however its program ends. -/
theorem untouched_snapshot {α : Type} (program : Program α) (failure? : α → Option Error)
    (t : RelationalStore StandIn) :
    Untouched t (RelationalStore.run .snapshot program failure? t).state := by
  rw [RelationalStore.run_eq]
  refine ⟨?_, rfl⟩
  have hprogram := runProgram_extends true Untouched.refl Untouched.trans untouched_of_stepCalls
    program (t.entered .snapshot)
  exact (untouched_entered .snapshot t).trans (hprogram.trans (untouched_left _ _))

end Chronicle.Relational
