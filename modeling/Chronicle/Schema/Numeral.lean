import Chronicle.Schema.Violation
import Chronicle.Text.Blank
import Chronicle.Text.Digit

/-!
# Integer numerals

A plain numeral is an optional minus sign and decimal digits without a leading zero. Any other text
is tidied first: blanks around it, one plus sign, leading zeros with the underscores among them, a
fraction of zeros, and single underscores are dropped; what is left has to be a plain numeral. A
minus sign may also stand after leading zeros.

A plain numeral has at most 4300 digits. A text that starts like a longer one is refused for its
size; one that is too long only after it was tidied is refused as no numeral.

## Main definitions

* `Numeral.plain?` — the integer of a plain numeral.
* `Numeral.tidied?` — what is left of a text when all that may be dropped is dropped.
* `Numeral.read` — the integer of a numeral.
-/

namespace Chronicle.Numeral

/-! ## Plain numerals -/

/-- The natural number of a run of digits. -/
def value (digits : List Char) : Nat :=
  digits.foldl (fun n c => 10 * n + (c.toNat - '0'.toNat)) 0

/-- The greatest number of digits. -/
def sizeLimit : Nat := 4300

/-- Whether a text is a run of digits without a leading zero, and not too long. -/
def isPlain : List Char → Bool
  | [] => false
  | [c] => c.isDigit
  | c :: rest => c != '0' && (c :: rest).all Char.isDigit && (c :: rest).length ≤ sizeLimit

/-- The integer of a plain numeral. -/
def plain? : List Char → Option Int
  | '-' :: digits => if isPlain digits then some (-value digits) else none
  | digits => if isPlain digits then some (value digits) else none

/-- Whether a run of digits that does not start with a zero is longer than allowed, a sign of the
given length in front of it. -/
def isLongRun (signLength : Nat) (cs : List Char) : Bool :=
  cs.head? != some '0' && sizeLimit < signLength + (cs.takeWhile Char.isDigit).length

/-- Whether a text starts like a plain numeral that is too long. Here a minus sign counts. -/
def isTooLong : List Char → Bool
  | '-' :: rest => isLongRun 1 rest
  | cs => isLongRun 0 cs

/-! ## Tidying -/

/-- Drops one plus sign. None may stand before a minus sign. -/
def withoutPlus? : List Char → Option (List Char)
  | '+' :: '-' :: _ => none
  | '+' :: rest => some rest
  | cs => some cs

/-- What is left behind leading zeros, given the last character that was passed over. The last of
the zeros stays if no digit follows it. -/
def behindZeros? (last : Char) : List Char → Option (List Char)
  | [] => some [last]
  | c :: rest =>
    if c = '0' ∨ c = '_' then behindZeros? c rest
    else if c.isDigit ∨ c = '-' then some (c :: rest)
    else if c = '.' then some (last :: c :: rest)
    else none

/-- Drops leading zeros and the underscores among them. -/
def withoutZeros? : List Char → Option (List Char)
  | '0' :: rest => behindZeros? '0' rest
  | c :: rest => if c.isDigit ∨ c = '-' then some (c :: rest) else none
  | [] => none

/-- Drops leading zeros, also behind a minus sign. -/
def withoutLeadingZeros? : List Char → Option (List Char)
  | '-' :: rest => (withoutZeros? rest).map ('-' :: ·)
  | cs => withoutZeros? cs

/-- Drops a point with nothing but zeros behind it. -/
def withoutFraction (cs : List Char) : List Char :=
  match cs.dropWhile (· != '.') with
  | _ :: z :: zeros => if (z :: zeros).all (· == '0') then cs.takeWhile (· != '.') else cs
  | _ => cs

/-- Drops all that may be dropped. -/
def tidied? (cs : List Char) : Option (List Char) := do
  let cs ← withoutPlus? (Text.trim Text.isBlank cs)
  let cs ← withoutLeadingZeros? cs
  Text.withoutUnderscores? (withoutFraction cs)

/-! ## Reading -/

/-- The integer of a numeral. -/
def read (s : String) : Except Refusal Int :=
  let cs := s.toList
  if isTooLong cs then .error .integerSize
  else match (plain? cs).or ((tidied? cs).bind plain?) with
    | some n => .ok n
    | none => .error .integerText

end Chronicle.Numeral
