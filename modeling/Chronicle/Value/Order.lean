import Chronicle.Value.Basic

/-!
# Equality and order of values

Numbers of every shape are equal when they are the same number, texts when they are the same text,
lists and objects when their parts are. Values of different families are unequal. What is no number
is unequal to everything; but as a part of a list or an object one occurrence of it agrees with
itself, so that a list is the same as itself whatever it holds.

Two values have an order only inside the families of numbers, texts and lists; two lists are decided
by their first parts that do not agree, and a list comes after its own beginnings.

## Main definitions

* `Value.same` — equality.
* `Value.agrees` — equality of parts.
* `Value.less?` — strict order, `none` between values that have none.
* `Value.isRegular` — whether a value holds nothing but numbers where numbers can stand.
-/

namespace Chronicle.Value

/-! ## Equality -/

/-- Equality of values that both stand for numbers. -/
def sameNumber (x y : Value) : Bool :=
  match x.number?, y.number? with
  | some p, some q => p.same q
  | _, _ => false

/-- Whether two values are one occurrence of what is no number. -/
def sameMark : Value → Value → Bool
  | float (.nan m), float (.nan n) => m == n
  | _, _ => false

mutual

def same : Value → Value → Bool
  | null, null => true
  | text s, text t => s == t
  | list xs, list ys => sameItems xs ys
  | object xs, object ys => sameFields xs ys
  | x, y => sameNumber x y

/-- Equality of lists: their items agree one by one. -/
def sameItems : List Value → List Value → Bool
  | [], [] => true
  | x :: xs, y :: ys => (sameMark x y || same x y) && sameItems xs ys
  | _, _ => false

/-- Equality of objects: their fields agree one by one. -/
def sameFields : List (String × Value) → List (String × Value) → Bool
  | [], [] => true
  | (k, x) :: xs, (l, y) :: ys => k == l && (sameMark x y || same x y) && sameFields xs ys
  | _, _ => false

end

/-- Equality of values that are parts of something: one occurrence of what is no number agrees with
itself. -/
def agrees (x y : Value) : Bool := sameMark x y || same x y

mutual

/-- Whether a value holds nothing that is no number, at any depth. -/
def isRegular : Value → Bool
  | float (.nan _) => false
  | list items => areRegular items
  | object fields => haveRegular fields
  | _ => true

def areRegular : List Value → Bool
  | [] => true
  | x :: xs => isRegular x && areRegular xs

/-- Whether all fields of an object are regular. -/
def haveRegular : List (String × Value) → Bool
  | [] => true
  | (_, x) :: xs => isRegular x && haveRegular xs

end

/-! ## Order -/

mutual

/-- Strict order of values. -/
def less? : Value → Value → Option Bool
  | text s, text t => some (s < t)
  | list xs, list ys => lessItems? xs ys
  | x, y =>
    match x.number?, y.number? with
    | some p, some q => some (p.less q)
    | _, _ => none

/-- Strict order of lists: the first items that do not agree decide. -/
def lessItems? : List Value → List Value → Option Bool
  | x :: xs, y :: ys => if agrees x y then lessItems? xs ys else less? x y
  | [], [] => some false
  | [], _ :: _ => some true
  | _ :: _, [] => some false

end

end Chronicle.Value
