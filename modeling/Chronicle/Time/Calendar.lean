/-!
# The proleptic Gregorian calendar

Dates and readings of a wall clock in the years 1 to 9999. A reading is kept as the microseconds
since the start of year 1, so that comparing and shifting readings is arithmetic; its calendar
fields are computed from that count and determine it.

## Main definitions

* `Date`, `Date.ordinal`, `Date.ofOrdinal` — dates and their day numbers, day 0 being 1 January 1.
* `CivilTime` — a date and a time of day; `CivilTime.IsValid` says when its fields are in range.
* `WallTime` — a reading, with `WallTime.civil` and `WallTime.ofCivil?` between the two forms.
-/

namespace Chronicle

/-- A date by its calendar fields. -/
structure Date where
  year : Nat
  month : Nat
  day : Nat
  deriving DecidableEq, Repr

namespace Date

/-- Every fourth year is a leap year, but of the full centuries only every fourth. -/
def isLeapYear (year : Nat) : Bool := year % 4 = 0 && (year % 100 ≠ 0 || year % 400 = 0)

def monthLengths (year : Nat) : List Nat :=
  [31, if isLeapYear year then 29 else 28, 31, 30, 31, 30, 31, 31, 30, 31, 30, 31]

def daysBeforeYear (year : Nat) : Nat :=
  365 * (year - 1) + (year - 1) / 4 - (year - 1) / 100 + (year - 1) / 400

/-- The number of a date's day. -/
def ordinal (d : Date) : Nat :=
  daysBeforeYear d.year + ((monthLengths d.year).take (d.month - 1)).foldr (· + ·) 0 + (d.day - 1)

/-- Whether the fields name a date of the years 1 to 9999. -/
def IsValid (d : Date) : Prop :=
  1 ≤ d.year ∧ d.year ≤ 9999 ∧ 1 ≤ d.month ∧ d.month ≤ 12 ∧ 1 ≤ d.day ∧
    d.day ≤ (monthLengths d.year)[d.month - 1]?.getD 0

instance (d : Date) : Decidable d.IsValid := by unfold IsValid; infer_instance

/-- The month and the day of the month after `days` whole days, counted through the months of the
given lengths from month `month` on. -/
def monthAndDay (days : Nat) : (month : Nat) → (lengths : List Nat) → Nat × Nat
  | month, [] => (month, days + 1)
  | month, length :: rest =>
    if days < length then (month, days + 1) else monthAndDay (days - length) (month + 1) rest

/-- The date of a day number: whole cycles of 400, 100, 4 and 1 years are taken off in turn, where
the last century of 400 years and the last year of 4 are one day longer than the others. -/
def ofOrdinal (n : Nat) : Date :=
  let inEra := n % 146097
  let century := min (inEra / 36524) 3
  let inCentury := inEra - century * 36524
  let inCycle := inCentury % 1461
  let yearOfCycle := min (inCycle / 365) 3
  let year := 400 * (n / 146097) + 100 * century + 4 * (inCentury / 1461) + yearOfCycle + 1
  let (month, day) := monthAndDay (inCycle - yearOfCycle * 365) 1 (monthLengths year)
  ⟨year, month, day⟩

end Date

/-! ## Times of day -/

def microsPerDay : Nat := 86400000000

/-- A date and a time of day by their fields. -/
structure CivilTime where
  date : Date
  hour : Nat
  minute : Nat
  second : Nat
  micro : Nat
  deriving DecidableEq, Repr

namespace CivilTime

/-- Whether the fields name a time of the years 1 to 9999. -/
def IsValid (c : CivilTime) : Prop :=
  c.date.IsValid ∧ c.hour < 24 ∧ c.minute < 60 ∧ c.second < 60 ∧ c.micro < 1000000

instance (c : CivilTime) : Decidable c.IsValid := by unfold IsValid; infer_instance

/-- The microseconds since the start of year 1. -/
def micros (c : CivilTime) : Nat :=
  c.date.ordinal * microsPerDay + ((c.hour * 60 + c.minute) * 60 + c.second) * 1000000 + c.micro

/-- The fields of a count of microseconds since the start of year 1. -/
def ofMicros (n : Nat) : CivilTime where
  date := .ofOrdinal (n / microsPerDay)
  hour := n % microsPerDay / 3600000000
  minute := n % microsPerDay / 60000000 % 60
  second := n % microsPerDay / 1000000 % 60
  micro := n % 1000000

end CivilTime

/-! ## Readings -/

/-- The microseconds of the years 1 to 9999: 3652059 days. -/
def microsLimit : Nat := 315537897600000000

/-- A reading of a wall clock in the years 1 to 9999, in microseconds since the start of year 1. -/
structure WallTime where
  micros : Nat
  micros_lt : micros < microsLimit
  deriving DecidableEq

namespace WallTime

/-- The reading at a count of microseconds, if it is in range. -/
def ofMicros? (n : Int) : Option WallTime :=
  if h : 0 ≤ n ∧ n < microsLimit then some ⟨n.toNat, by omega⟩ else none

/-- The calendar fields of a reading. -/
def civil (t : WallTime) : CivilTime := .ofMicros t.micros

/-- The reading with given calendar fields, if they are in range. -/
def ofCivil? (c : CivilTime) : Option WallTime :=
  if c.IsValid then ofMicros? c.micros else none

/-- The start of 1970, from which counted time stamps run. -/
def epoch : WallTime := ⟨62135596800000000, by decide⟩

theorem ofMicros?_micros (t : WallTime) : ofMicros? t.micros = some t := by
  have := t.micros_lt
  simp [ofMicros?, this]

theorem micros_of_ofMicros? {n : Int} {t : WallTime} (h : ofMicros? n = some t) :
    (t.micros : Int) = n := by
  unfold ofMicros? at h
  split at h
  · cases h; simp; omega
  · simp at h

theorem ofMicros?_eq_none_iff {n : Int} : ofMicros? n = none ↔ n < 0 ∨ (microsLimit : Int) ≤ n := by
  unfold ofMicros?
  split <;> simp <;> omega

end WallTime

end Chronicle
