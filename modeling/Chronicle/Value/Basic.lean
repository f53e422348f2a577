import Chronicle.Number.Double

/-!
# Attribute values

The values an attribute may hold before its schema has been applied: the shapes of a JSON document,
with integers of any size apart from binary64 numbers.

## Main definitions

* `Value` — the values.
* `Value.ofFields` — an object from its fields, which are kept in the order of their names.
* `Value.isVoid` — whether a value counts as nothing.
* `Value.number?` — the number a value stands for.
-/

namespace Chronicle

/-- An attribute value. An object read from a document lists its fields in the order of their names,
each name once. -/
inductive Value where
  | null
  | bool (b : Bool)
  | int (n : Int)
  | float (x : Double)
  | text (s : String)
  | list (items : List Value)
  | object (fields : List (String × Value))
  deriving Inhabited

namespace Value

/-- Puts a field in its place; a field of the same name is replaced. -/
def insertField (name : String) (v : Value) : List (String × Value) → List (String × Value)
  | [] => [(name, v)]
  | (k, w) :: rest =>
    if name < k then (name, v) :: (k, w) :: rest
    else if name = k then (name, v) :: rest
    else (k, w) :: insertField name v rest

/-- An object from its fields in any order; of two fields of one name the later counts. -/
def ofFields (fields : List (String × Value)) : Value :=
  .object (fields.foldl (fun sorted f => insertField f.1 f.2 sorted) [])

/-- Whether a value counts as nothing: null, false, zero, and what is empty. -/
def isVoid : Value → Bool
  | null => true
  | bool b => !b
  | int n => n == 0
  | float x => x.isZero
  | text s => s.isEmpty
  | list items => items.isEmpty
  | object fields => fields.isEmpty

/-- The number a value stands for: truth values count as zero and one. -/
def number? : Value → Option Number
  | bool b => some (.ofInt (if b then 1 else 0))
  | int n => some (.ofInt n)
  | float x => some x.number
  | _ => none

end Value

end Chronicle
