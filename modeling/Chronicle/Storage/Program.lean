import Chronicle.Entity
import Chronicle.History.ModificationLog

/-!
# Blocks of storage steps

What a unit of work does is a program of storage steps, written without regard to where the data is
kept; each storage runs programs in its own way. A program sees the answer or the failure of every
step and decides itself whether to go on.

## Main definitions

* `Step`, `Step.Answer` — the steps and what each answers.
* `Program` — programs of steps; `Block` is a program that may end in a failure.
* `Script` — a given list of steps, with the failures that do not end it marked.
-/

namespace Chronicle

/-- A step on a storage inside a unit of work. -/
inductive Step where
  /-- Reads an entity, locking it for a later write if asked to. -/
  | getEntity (kind : Kind) (id : Int) (forUpdate : Bool)
  /-- Reads all entities of a kind, by increasing id. -/
  | listEntities (kind : Kind)
  /-- Writes a new entity under a fresh id. -/
  | insertEntity (kind : Kind) (attributes : Value)
  /-- Overwrites an entity that exists. -/
  | saveEntity (entity : Entity)
  /-- Records an update of an entity that exists. -/
  | appendModification (entry : Modification)
  /-- Records the creation of an entity that exists. -/
  | appendAddition (entry : Addition)
  /-- Reads recorded updates. -/
  | modifications (kind : Kind) (filter : ModificationFilter)
  /-- Reads recorded creations. -/
  | additions (kind : Kind) (since : Option Moment)

abbrev Step.Answer : Step → Type
  | getEntity .. => Option Entity
  | listEntities _ => List Entity
  | insertEntity .. => Entity
  | saveEntity _ | appendModification _ | appendAddition _ => Unit
  | modifications .. => List Modification
  | additions .. => List Addition

def Step.isWrite : Step → Bool
  | insertEntity .. | saveEntity _ | appendModification _ | appendAddition _ => true
  | getEntity .. | listEntities _ | modifications .. | additions .. => false

/-- A program of steps. -/
inductive Program (α : Type) where
  | done (result : α)
  | step (s : Step) (next : Except Error s.Answer → Program α)

namespace Program

variable {α β : Type}

/-- Goes on with the result of a program. -/
protected def bind : Program α → (α → Program β) → Program β
  | done a, f => f a
  | step s next, f => step s fun answer => (next answer).bind f

instance : Monad Program where
  pure := done
  bind := Program.bind

end Program

/-- A program that ends with a result or a failure. -/
abbrev Block (α : Type) : Type := ExceptT Error Program α

namespace Block

/-- Takes one step; its failure ends the block. -/
def perform (s : Step) : Block s.Answer := ExceptT.mk (.step s .done)

/-- Ends the block if a computation fails. -/
def lift {α : Type} (result : Except Error α) : Block α := ExceptT.mk (.done result)

/-- The failure a block ended in. -/
def failure? {α : Type} : Except Error α → Option Error
  | .ok _ => none
  | .error e => some e

end Block

/-! ## Scripts -/

/-- The answer of some step. -/
inductive Reply where
  | nothing
  | entity (e : Option Entity)
  | entities (es : List Entity)
  | modifications (ms : List Modification)
  | additions (as : List Addition)

def Step.reply : (s : Step) → s.Answer → Reply
  | getEntity .., e => .entity e
  | listEntities _, es => .entities es
  | insertEntity .., e => .entity (some e)
  | saveEntity _, _ | appendModification _, _ | appendAddition _, _ => .nothing
  | modifications .., ms => .modifications ms
  | additions .., as => .additions as

/-- A step of a script: a storage step or a failure of the caller's own. A caught failure does not
end the script. -/
structure ScriptStep where
  action : Except Error Step
  caught : Bool

/-- What came of a script: the answers of the steps that were taken, and the failure that ended
it. -/
structure Report where
  replies : List (Except Error Reply)
  failure : Option Error

/-- Puts the answer of a first step in front of a report. -/
def Report.after (reply : Except Error Reply) (report : Report) : Report :=
  { report with replies := reply :: report.replies }

def Script.program : List ScriptStep → Program Report
  | [] => .done ⟨[], none⟩
  | s :: rest =>
    let failed (e : Error) : Program Report :=
      if s.caught then return (← program rest).after (.error e) else return ⟨[.error e], some e⟩
    match s.action with
    | .error e => failed e
    | .ok step => .step step fun
      | .ok answer => do return (← program rest).after (.ok (step.reply answer))
      | .error e => failed e

end Chronicle
