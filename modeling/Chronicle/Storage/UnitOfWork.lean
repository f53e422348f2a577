import Chronicle.Logging.Line
import Chronicle.Storage.Program

/-!
# Units of work

A unit of work runs a program of steps on a storage, either as a transaction, whose writes take
effect together when the program ends without a failure, or as a snapshot, which only reads.

## Main definitions

* `Mode` — transaction or snapshot.
* `Exit` — how a unit of work ended.
* `UnitOfWork` — a storage that runs programs.
-/

namespace Chronicle

/-- How a program is run. -/
inductive Mode where
  | transaction
  | snapshot
  deriving DecidableEq, Repr

/-- The end of a unit of work: the result of the program, the failure that the unit of work was left
with, the storage afterwards, and the lines logged. -/
structure Exit (σ α : Type) where
  result : α
  failure : Option Error
  state : σ
  lines : List LogLine := []

/-- A storage of type `σ` that runs programs. The function `failure?` says whether a result means
that the program failed. -/
class UnitOfWork (σ : Type) where
  run : {α : Type} → Mode → Program α → (failure? : α → Option Error) → σ → Exit σ α

/-- What a block came to: the failure the unit of work was left with, else the block's result. -/
def Exit.outcome {σ α : Type} (exit : Exit σ (Except Error α)) : Except Error α :=
  match exit.failure with
  | some e => .error e
  | none => exit.result

end Chronicle
