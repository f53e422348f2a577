import Chronicle.Error
import Chronicle.Number.Decimal
import Chronicle.Time.Calendar

/-!
# Moments

A moment is a reading of a wall clock, with the distance of that clock from coordinated universal
time if it is known. Two moments that both know it compare by the instant they name, two that do not
by their readings; one of each has no order. All moments that this library records are readings of
universal time without an offset.

## Main definitions

* `Moment`, `Moment.instant` — moments and the instants they name.
* `Moment.before` — strict order, failing between a moment with an offset and one without.
* `Moment.utc` — the reading of a universal clock at a moment.
* `Moment.ofUnix`, `Moment.ofUnixDouble` — the moment of a counted time stamp.
-/

namespace Chronicle

/-- A reading of a wall clock; `aware` moments know its offset from universal time, in
microseconds east. -/
inductive Moment where
  | naive (reading : WallTime)
  | aware (reading : WallTime) (offset : Int)
  deriving DecidableEq

namespace Moment

/-- Whether the offset is known. -/
def isAware : Moment → Bool
  | naive _ => false
  | aware .. => true

/-- The microseconds from the start of year 1 in universal time. A moment without an offset counts
as universal time. -/
def instant : Moment → Int
  | naive t => t.micros
  | aware t offset => t.micros - offset

/-- Whether a moment comes before another. -/
def before (a b : Moment) : Except Error Bool :=
  if a.isAware = b.isAware then .ok (decide (a.instant < b.instant)) else .error .mixedAwareness

/-- The reading of a universal clock at a moment. -/
def utc : Moment → Except Error WallTime
  | naive t => .ok t
  | aware t offset =>
    match WallTime.ofMicros? (t.micros - offset) with
    | some u => .ok u
    | none => .error .outOfRange

/-- The moment without an offset that reads universal time. -/
def toNaive (m : Moment) : Except Error Moment := m.utc.map naive

/-! ## Counted time stamps -/

/-- A count above this magnitude is in milliseconds, else in seconds. -/
def secondsLimit : Nat := 20000000000

/-- The microseconds from the start of year 0 to the start of 1970. -/
def yearZeroMicros : Int := 62167219200000000

/-- The moment that lies a number of microseconds after the start of 1970 in universal time. -/
def ofUnixMicros (micros : Int) : Except Refusal Moment :=
  match WallTime.ofMicros? (WallTime.epoch.micros + micros) with
  | some t => .ok (aware t 0)
  | none =>
    if micros < -yearZeroMicros then
      .error (.momentRange "dates before 0000 are not supported as unix timestamps")
    else if micros < 0 then .error (.momentRange "year 0 is out of range")
    else .error (.momentRange "dates after 9999 are not supported as unix timestamps")

/-- The moment of a time stamp counted from the start of 1970 in universal time. A count beyond the
range of binary64 numbers is none. -/
def ofUnix (n : Int) : Except Refusal Moment :=
  if (Double.nearest (decide (n < 0)) n.natAbs 1).isSpecial then .error .notAMoment
  else ofUnixMicros (if n.natAbs ≤ secondsLimit then n * 1000000 else n * 1000)

/-- A number of units of `unit` microseconds each in microseconds: whole units exactly, and the rest
of a unit as the nearest binary64 number, rounded with a half going up. -/
def microsOf (unit : Nat) (numerator : Int) (denominator : Nat) : Int :=
  let rest := (numerator.emod denominator).toNat
  let micros := match Double.nearest false (rest * unit) denominator with
    | .finite _ significand exponent => Double.roundHalfUp significand exponent
    | _ => 0
  numerator.ediv denominator * unit + micros

/-- The moment of a time stamp that may count fractions. -/
def ofUnixDouble (x : Double) : Except Refusal Moment :=
  match x with
  | .nan _ => .error (.momentRange "NaN values not permitted")
  | .infinite negative => ofUnixMicros (if negative then -yearZeroMicros - 1 else microsLimit)
  | .finite negative significand exponent =>
    let numerator := Double.signed negative (significand * Nat.pow 2 exponent.toNat)
    let denominator := Nat.pow 2 (-exponent).toNat
    let unit := if numerator.natAbs ≤ secondsLimit * denominator then 1000000 else 1000
    ofUnixMicros (microsOf unit numerator denominator)

/-! ## Laws of order -/

theorem before_ok_of_isAware_eq {a b : Moment} (h : a.isAware = b.isAware) :
    a.before b = .ok (decide (a.instant < b.instant)) := by
  simp [before, h]

theorem before_error_iff {a b : Moment} {e : Error} :
    a.before b = .error e ↔ a.isAware ≠ b.isAware ∧ e = .mixedAwareness := by
  unfold before
  split <;> simp_all [eq_comm]

theorem instant_of_utc {m : Moment} {t : WallTime} (h : m.utc = .ok t) :
    (t.micros : Int) = m.instant := by
  cases m with
  | naive r => cases h; rfl
  | aware r offset =>
    simp only [utc] at h
    split at h
    · cases h; exact WallTime.micros_of_ofMicros? ‹_›
    · cases h

end Moment

end Chronicle
