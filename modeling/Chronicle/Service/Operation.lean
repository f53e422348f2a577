import Chronicle.Storage.UnitOfWork

/-!
# Operations

An operation works on a storage of some type: it runs units of work, writes log lines and may fail.
What was written before a failure stays in the report.

## Main definitions

* `Outcome` — what an operation came to: result, storage and log lines.
* `Operation` — operations, a monad.
* `Operation.within`, `Operation.script` — running a block or a script as a unit of work.
* `Operation.log` — writing a log line.
-/

namespace Chronicle

/-- What an operation came to. -/
structure Outcome (σ α : Type) where
  result : Except Error α
  state : σ
  lines : List LogLine := []

def Operation (σ α : Type) : Type := σ → Outcome σ α

namespace Operation

variable {σ α β : Type}

protected def pure (a : α) : Operation σ α := fun state => { result := .ok a, state }

/-- Goes on with the result of an operation; its failure ends both. -/
protected def bind (x : Operation σ α) (f : α → Operation σ β) : Operation σ β := fun state =>
  let first := x state
  match first.result with
  | .error e => { first with result := .error e }
  | .ok a =>
    let second := f a first.state
    { second with lines := first.lines ++ second.lines }

instance : Monad (Operation σ) where
  pure := Operation.pure
  bind := Operation.bind

/-- The operation that fails if a computation does. -/
def lift (result : Except Error α) : Operation σ α := fun state => { result, state }

instance : MonadLift (Except Error) (Operation σ) where
  monadLift := lift

/-- The storage. -/
def get : Operation σ σ := fun state => { result := .ok state, state }

/-- Replaces the storage. -/
def put (state : σ) : Operation σ Unit := fun _ => { result := .ok (), state }

/-- Writes a log line. -/
def log (level : Level) (event : String) (fields : List (String × Value)) : Operation σ Unit :=
  fun state => { result := .ok (), state, lines := [{ level, event := .text event, fields }] }

def within [UnitOfWork σ] (mode : Mode) (block : Block α) : Operation σ α := fun state =>
  let exit := UnitOfWork.run mode block.run Block.failure? state
  { result := exit.outcome, state := exit.state, lines := exit.lines }

/-- Runs a script as a unit of work. The report holds the failure that the unit of work was left
with, be it of a step or of the end. -/
def script [UnitOfWork σ] (mode : Mode) (steps : List ScriptStep) : Operation σ Report :=
  fun state =>
    let exit := UnitOfWork.run mode (Script.program steps) Report.failure state
    { result := .ok { exit.result with failure := exit.failure }
      state := exit.state
      lines := exit.lines }

end Operation

end Chronicle
