import Chronicle.Schema.Numeral
import Chronicle.Value.Basic

/-!
# Conversion of single values

How a value is taken for an integer, a text, a truth value or a label. Conversion is lenient for
integers and truth values and strict for texts.

## Main definitions

* `Conversion.integer`, `Conversion.text`, `Conversion.boolean` — conversions to one type.
* `Conversion.label` — membership in a closed set of labels, in either case of the letters.
-/

namespace Chronicle.Conversion

/-- The number from which on an integral binary64 number, of either sign, is not taken for an
integer. -/
def wordLimit : Int := 9223372036854775808

/-- An integer from a binary64 number. -/
def integerOfDouble (x : Double) : Except Refusal Int :=
  if x.isSpecial then .error .notFinite
  else
    match x.toInt? with
    | none => .error .integerFraction
    | some n => if -wordLimit < n ∧ n < wordLimit then .ok n else .error .integerSize

/-- An integer: truth values count as zero and one, texts are read as numerals. -/
def integer : Value → Except Refusal Int
  | .int n => .ok n
  | .bool b => .ok (if b then 1 else 0)
  | .float x => integerOfDouble x
  | .text s => Numeral.read s
  | .null | .list _ | .object _ => .error .notInteger

def integerBetween (least most : Option Int) (v : Value) : Except Refusal Int := do
  let n ← integer v
  if let some bound := most then
    if bound < n then throw (.atMost bound)
  if let some bound := least then
    if n < bound then throw (.atLeast bound)
  return n

/-- A position: the number that stands for no position, or a positive integer. -/
def position (unranked : Int) (v : Value) : Except Refusal Int := do
  let n ← integer v
  if n ≠ unranked ∧ n < 1 then throw (.notAPosition unranked)
  return n

/-- A text. Nothing else is taken for one. -/
def text : Value → Except Refusal String
  | .text s => .ok s
  | _ => .error .notText

def textBetween (least : Nat) (most : Option Nat) (v : Value) : Except Refusal String := do
  let s ← text v
  if s.length < least then throw (.tooShort least)
  if let some bound := most then
    if bound < s.length then throw (.tooLong bound)
  return s

/-- The words for false and for true. -/
def words : List String × List String :=
  (["0", "off", "f", "false", "n", "no"], ["1", "on", "t", "true", "y", "yes"])

/-- A truth value from an integer. Integers of more than 64 bits are not even taken for bad ones. -/
def booleanOfInt (n : Int) : Except Refusal Bool :=
  if n = 0 then .ok false
  else if n = 1 then .ok true
  else if -wordLimit ≤ n ∧ n < wordLimit then .error .booleanText
  else .error .notBoolean

/-- A truth value: zero, one, or a word in either case of its letters. -/
def boolean : Value → Except Refusal Bool
  | .bool b => .ok b
  | .int n => booleanOfInt n
  | .float x =>
    match integerOfDouble x with
    | .ok n => booleanOfInt n
    | .error _ => .error .notBoolean
  | .text s =>
    if words.1.contains s.toLower then .ok false
    else if words.2.contains s.toLower then .ok true
    else .error .booleanText
  | _ => .error .notBoolean

/-- A label of a closed set. Capital letters count as small ones; letters beyond ASCII are in no
label, so their case does not matter. -/
def label (labels : List String) (v : Value) : Except Refusal String :=
  match v with
  | .text s => if labels.contains s.toLower then .ok s.toLower else .error (.notALabel labels)
  | _ => .error (.notALabel labels)

/-- One of a few exact texts. -/
def literal (labels : List String) (v : Value) : Except Refusal String :=
  match v with
  | .text s => if labels.contains s then .ok s else .error (.notALiteral labels)
  | _ => .error (.notALiteral labels)

end Chronicle.Conversion
