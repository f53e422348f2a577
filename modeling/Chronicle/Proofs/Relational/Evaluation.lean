import Chronicle.Proofs.Schema.Normal
import Chronicle.Storage.Relational.Select

/-!
# What queries ask for

A query asks for the rows of a table that meet all of its conditions, in the lexicographic order of
its columns. A condition on what a row does not hold is not met. Values in documents are compared by
an equality of their own, of which only what it is on null, integers and texts is known.

## Main definitions

* `DocumentEquality` — equalities of values in documents.
* `Condition.holds` — whether a row meets a condition.
* `Row.precedes` — the lexicographic order of rows by columns.
* `Select.Answers` — whether a list of rows answers a query of a table.

## Main statements

* `Select.Answers.unique` — rows that the columns of the order tell apart have one answer.
-/

namespace Chronicle.Relational

/-- An equality of values in documents. -/
structure DocumentEquality where
  same : Value → Value → Bool
  same_iff : ∀ {v w : Value}, v.IsPlain → w.IsPlain → (same v w = true ↔ v = w)

/-- The equality of attribute values, for documents. -/
def DocumentEquality.ofSame : DocumentEquality := ⟨Value.same, Value.same_iff_eq⟩

/-- The document that a row holds in a column. -/
def Row.document? (row : Row) (column : String) : Option Attributes :=
  Attributes.ofValue? (row.get column).plain

/-- Whether a row meets a condition. -/
def Condition.holds (eq : DocumentEquality) (row : Row) : Condition → Bool
  | .equals column n => match row.get column with
    | .value (.int m) => m == n
    | _ => false
  | .notBefore column start => match row.get column with
    | .moment t => decide (start.instant ≤ t.instant)
    | _ => false
  | .hasName column name => (row.document? column).any (·.has name)
  | .differs column name v =>
    ((row.document? column).bind (·.get? name)).any fun w => !eq.same w v

/-- Whether a cell is below another: moments by instant, integers by value. -/
def Cell.below : Cell → Cell → Bool
  | .moment s, .moment t => decide (s.instant < t.instant)
  | .value (.int m), .value (.int n) => decide (m < n)
  | _, _ => false

/-- Whether a row comes before another: the first column in which one is below the other decides. -/
def Row.precedes (a b : Row) : List String → Bool
  | [] => false
  | column :: rest =>
    (a.get column).below (b.get column) ||
      !(b.get column).below (a.get column) && a.precedes b rest

namespace Select

/-- Whether a row meets all conditions of a query. -/
def accepts (q : Select) (eq : DocumentEquality) (row : Row) : Bool :=
  q.conditions.all (·.holds eq row)

/-- Whether a list of rows answers a query of a table with given rows. -/
structure Answers (q : Select) (eq : DocumentEquality) (rows answer : List Row) : Prop where
  complete : answer.Perm (rows.filter (q.accepts eq))
  ordered : answer.Pairwise fun a b => b.precedes a q.order = false

variable {q : Select} {eq : DocumentEquality} {rows answer other : List Row}

/-- Where the columns of the order tell any two rows apart, a query has one answer. -/
theorem Answers.unique (h : q.Answers eq rows answer) (hother : q.Answers eq rows other)
    (hdistinct : ∀ a ∈ rows, ∀ b ∈ rows, a.precedes b q.order = false →
      b.precedes a q.order = false → a = b) : answer = other := by
  have hmem : ∀ {xs : List Row}, q.Answers eq rows xs → ∀ a ∈ xs, a ∈ rows := by
    intro xs hxs a ha
    exact (List.mem_filter.1 (hxs.complete.mem_iff.1 ha)).1
  have hperm : answer.Perm other := h.complete.trans hother.complete.symm
  refine hperm.eq_of_pairwise (fun a b ha hb hab hba => ?_) h.ordered hother.ordered
  exact hdistinct a (hmem h a ha) b (hmem hother b hb) hba hab

end Select

end Chronicle.Relational
