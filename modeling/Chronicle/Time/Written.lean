import Chronicle.Time.Moment

/-!
# Written moments

A moment is written `YYYY-MM-DDTHH:MM:SS`, then six digits of microseconds if there are any, then
the offset as a sign, hours and minutes, with its seconds and microseconds if there are any.

## Main definitions

* `Moment.written` — the written form.
* `Moment.ofWritten?` — reading it.
-/

namespace Chronicle.Moment

/-! ## Writing -/

/-- A number with at least `width` digits. -/
def padded (width n : Nat) : String :=
  let digits := toString n
  "".pushn '0' (width - digits.length) ++ digits

/-- A point and six digits, or nothing for zero microseconds. -/
def writtenFraction (micro : Nat) : String := if micro = 0 then "" else "." ++ padded 6 micro

/-- An offset from universal time. -/
def writtenOffset (offset : Int) : String :=
  let size := offset.natAbs
  let second := size / 1000000 % 60
  let micro := size % 1000000
  (if offset < 0 then "-" else "+") ++ padded 2 (size / 3600000000) ++ ":"
    ++ padded 2 (size / 60000000 % 60)
    ++ (if second = 0 ∧ micro = 0 then "" else ":" ++ padded 2 second)
    ++ writtenFraction micro

def writtenReading (t : WallTime) : String :=
  let c := t.civil
  padded 4 c.date.year ++ "-" ++ padded 2 c.date.month ++ "-" ++ padded 2 c.date.day ++ "T"
    ++ padded 2 c.hour ++ ":" ++ padded 2 c.minute ++ ":" ++ padded 2 c.second
    ++ writtenFraction c.micro

def written : Moment → String
  | naive t => writtenReading t
  | aware t offset => writtenReading t ++ writtenOffset offset

/-! ## Reading -/

/-- The number of a run of digits. -/
def digits? (cs : List Char) : Option Nat :=
  if cs.isEmpty || !cs.all Char.isDigit then none
  else some (cs.foldl (fun n c => 10 * n + (c.toNat - '0'.toNat)) 0)

/-- Reads a point and up to six digits as microseconds; without a point there are none. -/
def fraction? : List Char → Option (Nat × List Char)
  | '.' :: rest =>
    let run := rest.takeWhile Char.isDigit
    if run.isEmpty || 6 < run.length then none
    else (digits? run).map fun n => (n * Nat.pow 10 (6 - run.length), rest.dropWhile Char.isDigit)
  | rest => some (0, rest)

/-- Reads hours, minutes and optional seconds and microseconds as a number of microseconds. An
offset of less than a second is none. -/
def offsetSize? : List Char → Option Nat
  | [h, h', ':', m, m'] => do
    let hour ← digits? [h, h']
    let minute ← digits? [m, m']
    return (hour * 60 + minute) * 60000000
  | h :: h' :: ':' :: m :: m' :: ':' :: s :: s' :: rest => do
    let hour ← digits? [h, h']
    let minute ← digits? [m, m']
    let second ← digits? [s, s']
    match ← fraction? rest with
    | (micro, []) =>
      let seconds := (hour * 60 + minute) * 60 + second
      return if seconds = 0 then 0 else seconds * 1000000 + micro
    | _ => none
  | _ => none

/-- Reads the offset after a reading, if there is one. -/
def withOffset? (t : WallTime) : List Char → Option Moment
  | [] => some (naive t)
  | '+' :: rest => (offsetSize? rest).map fun n => aware t n
  | '-' :: rest => (offsetSize? rest).map fun n => aware t (-n)
  | _ => none

def ofWritten? (s : String) : Option Moment :=
  match s.toList with
  | y₁ :: y₂ :: y₃ :: y₄ :: '-' :: n₁ :: n₂ :: '-' :: d₁ :: d₂ :: 'T' :: h₁ :: h₂ :: ':' :: m₁ :: m₂
      :: ':' :: s₁ :: s₂ :: rest => do
    let year ← digits? [y₁, y₂, y₃, y₄]
    let month ← digits? [n₁, n₂]
    let day ← digits? [d₁, d₂]
    let hour ← digits? [h₁, h₂]
    let minute ← digits? [m₁, m₂]
    let second ← digits? [s₁, s₂]
    let (micro, rest) ← fraction? rest
    let reading ← WallTime.ofCivil? ⟨⟨year, month, day⟩, hour, minute, second, micro⟩
    withOffset? reading rest
  | _ => none

end Chronicle.Moment
