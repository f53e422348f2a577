/-!
# Numbers compared by exact value

Attribute values hold integers of any size and binary64 numbers side by side, and a comparison
between the two is exact: it never rounds the integer.

## Main definitions

* `Double` — a binary64 number by sign, significand and exponent.
* `Number` — the rational line with two ends and one point that is not a number.
* `Number.same`, `Number.less` — equality and order; the point outside the line is equal to
  nothing, itself included, and stands before and after nothing.
-/

namespace Chronicle

/-- A binary64 number. A finite one is `± significand * 2 ^ exponent`, where the significand has 53
binary digits, or fewer at the least exponent `-1074`. What is no number carries a mark, by which
one occurrence of it can be told from another. -/
inductive Double where
  | nan (mark : Nat)
  | infinite (negative : Bool)
  | finite (negative : Bool) (significand : Nat) (exponent : Int)
  deriving DecidableEq, Repr

/-- A rational number, one of the two ends of the line, or no number at all. -/
inductive Number where
  | undefined
  | bottom
  | exact (q : Rat)
  | top
  deriving DecidableEq

namespace Number

def same : Number → Number → Bool
  | .undefined, _ => false
  | x, y => decide (x = y)

/-- Strict order of numbers. -/
def less : Number → Number → Bool
  | .exact p, .exact q => decide (p < q)
  | .bottom, .exact _ | .bottom, .top | .exact _, .top => true
  | _, _ => false

def ofInt (n : Int) : Number := .exact n

/-! ## Laws of equality -/

theorem same_comm (x y : Number) : x.same y = y.same x := by
  cases x <;> cases y <;> simp [same, eq_comm]

theorem same_trans {x y z : Number} (hxy : x.same y = true) (hyz : y.same z = true) :
    x.same z = true := by
  cases x <;> cases y <;> cases z <;> simp_all [same]

theorem same_ofInt (m n : Int) : (ofInt m).same (ofInt n) = decide (m = n) := by
  simp [same, ofInt]

theorem less_ofInt (m n : Int) : (ofInt m).less (ofInt n) = decide (m < n) := by
  simp only [less, ofInt, Rat.intCast_lt_intCast]

end Number

namespace Double

/-- The integer `± n`. -/
def signed (negative : Bool) (n : Nat) : Int := if negative then -n else n

/-- The exact value of a binary64 number. -/
def number : Double → Number
  | nan _ => .undefined
  | infinite true => .bottom
  | infinite false => .top
  | finite negative significand exponent =>
    if 0 ≤ exponent then .exact (signed negative (significand * Nat.pow 2 exponent.toNat) : Int)
    else .exact (mkRat (signed negative significand) (Nat.pow 2 (-exponent).toNat))

/-- The integer a number is, if it is one. -/
def toInt? : Double → Option Int
  | finite negative significand exponent =>
    if 0 ≤ exponent then some (signed negative (significand * Nat.pow 2 exponent.toNat))
    else if significand % Nat.pow 2 (-exponent).toNat = 0 then
      some (signed negative (significand / Nat.pow 2 (-exponent).toNat))
    else none
  | _ => none

/-- Whether the number is zero, of either sign. -/
def isZero : Double → Bool
  | finite _ significand _ => significand == 0
  | _ => false

/-- Whether the number is an infinity or no number. -/
def isSpecial : Double → Bool
  | finite .. => false
  | _ => true

end Double

end Chronicle
