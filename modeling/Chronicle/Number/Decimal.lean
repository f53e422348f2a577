import Chronicle.Number.Double

/-!
# Decimal text of binary64 numbers

A number is read as the binary64 number nearest to the decimal, a half going to the even
significand. It is written with the fewest digits that read back: the coarsest power of ten with a
multiple inside the interval of decimals that round to the number.

## Main definitions

* `Double.nearest` — rounding of a quotient to binary64.
* `Double.ofDecimal?` — reading a decimal text.
* `Double.shortest` — the digits and the power of ten of the shortest decimal.
* `Double.text` — the written form, positional from `0.0001` up to below `10 ^ 16`.
-/

namespace Chronicle.Double

/-! ## Rounding -/

/-- The quotient `n / d` to the nearest integer, a half to the even neighbour. -/
def roundHalfEven (n d : Nat) : Nat :=
  if 2 * (n % d) < d then n / d
  else if d < 2 * (n % d) then n / d + 1
  else n / d + n / d % 2

/-- The quotient `n / (d * 2 ^ e)`, rounded half to even. -/
def scaledQuotient (n d : Nat) (e : Int) : Nat :=
  if 0 ≤ e then roundHalfEven n (d * Nat.pow 2 e.toNat)
  else roundHalfEven (n * Nat.pow 2 (-e).toNat) d

/-- The least significand of 53 binary digits, `2 ^ 52`. -/
def leastFull : Nat := 4503599627370496

/-- The binary64 number nearest to `± n / d`. A quotient beyond the range is an infinity. -/
def nearest (negative : Bool) (n d : Nat) : Double :=
  if n = 0 then .finite negative 0 (-1074)
  else
    let guess := (n.log2 : Int) - d.log2 - 52
    let below : Bool :=
      if 0 ≤ guess then n < d * Nat.pow 2 guess.toNat * leastFull
      else n * Nat.pow 2 (-guess).toNat < d * leastFull
    let exponent := max (if below then guess - 1 else guess) (-1074)
    let significand := scaledQuotient n d exponent
    let (significand, exponent) :=
      if significand = 2 * leastFull then (leastFull, exponent + 1) else (significand, exponent)
    if 971 < exponent then .infinite negative else .finite negative significand exponent

/-- The number `significand * 2 ^ exponent` to the nearest integer, a half up. -/
def roundHalfUp (significand : Nat) (exponent : Int) : Nat :=
  if 0 ≤ exponent then significand * Nat.pow 2 exponent.toNat
  else (2 * significand + Nat.pow 2 (-exponent).toNat) / (2 * Nat.pow 2 (-exponent).toNat)

/-! ## Reading -/

/-- The number a run of decimal digits stands for. -/
def digitsValue (digits : List Char) : Nat :=
  digits.foldl (fun n c => 10 * n + (c.toNat - '0'.toNat)) 0

/-- The exponent after the mark `e`: an optional sign and digits. -/
def exponentOf? : List Char → Option Int
  | [] => some 0
  | 'e' :: '-' :: digits => if digits.all Char.isDigit then some (-digitsValue digits) else none
  | 'e' :: '+' :: digits => if digits.all Char.isDigit then some (digitsValue digits) else none
  | 'e' :: digits => if digits.all Char.isDigit then some (digitsValue digits) else none
  | _ => none

/-- An unsigned decimal: digits, an optional fraction and an optional exponent. -/
def unsignedOf? (negative : Bool) (cs : List Char) : Option Double :=
  let whole := cs.takeWhile Char.isDigit
  let rest := cs.dropWhile Char.isDigit
  let (fraction, rest) := match rest with
    | '.' :: tail => (tail.takeWhile Char.isDigit, tail.dropWhile Char.isDigit)
    | _ => ([], rest)
  if whole.isEmpty then none
  else (exponentOf? rest).map fun (e : Int) =>
    let digits := digitsValue (whole ++ fraction)
    let power : Int := e - fraction.length
    if 0 ≤ power then nearest negative (digits * Nat.pow 10 power.toNat) 1
    else nearest negative digits (Nat.pow 10 (-power).toNat)

/-- The binary64 number a decimal text stands for; `inf` and `nan` are texts too. -/
def ofDecimal? (s : String) : Option Double :=
  match s.toList with
  | ['n', 'a', 'n'] => some (.nan 0)
  | ['i', 'n', 'f'] => some (.infinite false)
  | ['-', 'i', 'n', 'f'] => some (.infinite true)
  | '-' :: rest => unsignedOf? true rest
  | cs => unsignedOf? false cs

/-! ## Writing -/

/-- Looks for the coarsest power of ten, from `10 ^ power` down, one of whose multiples rounds to
`significand * 2 ^ exponent`; of two such multiples the nearer is taken, the even one at a tie. -/
def shortestFrom (significand : Nat) (exponent : Int) : Nat → Int → Nat × Int
  | 0, power => (0, power)
  | fuel + 1, power =>
    let binary := Nat.pow 2 (exponent - 2).toNat * Nat.pow 10 (-power).toNat
    let decimal := Nat.pow 10 power.toNat * Nat.pow 2 (2 - exponent).toNat
    let value := 4 * significand * binary
    let low := (if significand = leastFull ∧ -1074 < exponent then 4 * significand - 1
      else 4 * significand - 2) * binary
    let high := (4 * significand + 2) * binary
    let inside (c : Nat) : Bool :=
      if significand % 2 = 0 then low ≤ c * decimal ∧ c * decimal ≤ high
      else low < c * decimal ∧ c * decimal < high
    let c := value / decimal
    match inside c, inside (c + 1) with
    | true, true => (roundHalfEven value decimal, power)
    | true, false => (c, power)
    | false, true => (c + 1, power)
    | false, false => shortestFrom significand exponent fuel (power - 1)

/-- The shortest decimal that reads back as a nonzero number: an integer and a power of ten. -/
def shortest (significand : Nat) (exponent : Int) : Nat × Int :=
  shortestFrom significand exponent 660 310

/-- The text of a decimal whose digits stand after the point at `0.d₁d₂… * 10 ^ point`. Numbers from
`10 ^ 16` on and below `0.0001` are written with an exponent of two digits or more. -/
def layout (digits : String) (point : Int) : String :=
  let n := digits.length
  if 16 < point ∨ point < -3 then
    let power := point - 1
    let tail := (digits.drop 1).toString
    let mark := if power < 0 then "e-" else "e+"
    let size := toString power.natAbs
    (digits.take 1).toString ++ (if tail.isEmpty then "" else "." ++ tail) ++ mark
      ++ (if size.length < 2 then "0" ++ size else size)
  else if point ≤ 0 then "0." ++ "".pushn '0' (-point).toNat ++ digits
  else if n ≤ point.toNat then digits.pushn '0' (point.toNat - n) ++ ".0"
  else (digits.take point.toNat).toString ++ "." ++ (digits.drop point.toNat).toString

/-- The written form of a number. -/
def text : Double → String
  | nan _ => "nan"
  | infinite negative => if negative then "-inf" else "inf"
  | finite negative significand exponent =>
    let sign := if negative then "-" else ""
    if significand = 0 then sign ++ "0.0"
    else
      let (digits, power) := shortest significand exponent
      let digits := toString digits
      sign ++ layout digits (digits.length + power)

end Chronicle.Double
