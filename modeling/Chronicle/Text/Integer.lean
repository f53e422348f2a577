import Chronicle.Text.Blank
import Chronicle.Text.Digit

/-!
# Integers in a text

An integer is written as an optional sign and decimal digits of any scripts, with single underscores
between them; blanks around it do not count. No more than 4300 digits are read.

## Main definitions

* `Text.IntegerFault` — why a text is not read as an integer.
* `Text.readInteger` — the integer of a text.
-/

namespace Chronicle.Text

/-- Why a text is not read as an integer. -/
inductive IntegerFault where
  | noInteger
  | tooLong (digits : Nat)
  deriving DecidableEq, Repr

/-- The greatest number of digits. -/
def digitLimit : Nat := 4300

/-- The natural number of a run of digits. -/
def digitsValue (digits : List Char) : Nat :=
  digits.foldl (fun n c => 10 * n + (digitValue? c).getD 0) 0

/-- The natural number that a text starts with, all of which it has to be. A run of digits that is
too long is noticed before what follows it. -/
def readNatural (cs : List Char) : Except IntegerFault Nat :=
  let inRun (c : Char) : Bool := isDigit c || c == '_'
  match withoutUnderscores? (cs.takeWhile inRun) with
  | none | some [] => .error .noInteger
  | some digits =>
    if digitLimit < digits.length then .error (.tooLong digits.length)
    else if (cs.dropWhile inRun).isEmpty then .ok (digitsValue digits)
    else .error .noInteger

def readInteger (s : String) : Except IntegerFault Int :=
  match trim isBlank s.toList with
  | '-' :: rest => (fun n => -(n : Int)) <$> readNatural rest
  | '+' :: rest => (fun n => (n : Int)) <$> readNatural rest
  | cs => (fun n => (n : Int)) <$> readNatural cs

end Chronicle.Text
