import Chronicle.Time.Calendar
import Mathlib.Algebra.GroupWithZero.Nat
import Mathlib.Algebra.Order.BigOperators.Group.List
import Mathlib.Algebra.Order.Group.Nat
import Mathlib.Data.List.Lex
import Mathlib.Logic.Function.Iterate

/-!
# The calendar as a count

The days of the calendar are numbered one after the other: the day after a date has the next number.
So every number of a day of the years 1 to 9999 belongs to one valid date, and a date comes before
another, compared field by field, exactly if its number is less. The same holds of dates with a time
of day and their counts of microseconds.

## Main definitions

* `Date.next` — the day after a date.
* `Date.fields`, `CivilTime.fields` — the fields, the widest first.
* `CivilTime.first`, `CivilTime.last` — the ends of the years 1 to 9999.

## Main statements

* `Date.ordinal_next` — the day after a date has the next number.
* `Date.exists_ordinal` — the date of a day number is valid and has this number.
* `Date.iterate_next` — counting day after day from the first day of the year 1.
* `CivilTime.micros_ofMicros`, `CivilTime.ofMicros_micros` — fields and counts determine each other.
* `CivilTime.micros_lt_iff` — the order of the fields is the order of the counts.
-/

namespace Chronicle

namespace Date

variable {d a b : Date} {year month : Nat}

/-! ## Years -/

theorem isLeapYear_iff : isLeapYear year = true ↔ 4 ∣ year ∧ (¬ 100 ∣ year ∨ 400 ∣ year) := by
  simp [isLeapYear, Nat.dvd_iff_mod_eq_zero]

theorem sum_monthLengths (year : Nat) :
    (monthLengths year).sum = if isLeapYear year then 366 else 365 := by
  unfold monthLengths
  split <;> rfl

theorem daysBeforeYear_succ (h : 1 ≤ year) :
    daysBeforeYear (year + 1) = daysBeforeYear year + (monthLengths year).sum := by
  obtain ⟨y, rfl⟩ := Nat.exists_eq_add_of_le' h
  have hcentury : 100 ∣ y + 1 → 4 ∣ y + 1 := Nat.dvd_trans (by decide)
  have hera : 400 ∣ y + 1 → 100 ∣ y + 1 := Nat.dvd_trans (by decide)
  have hle : y / 100 ≤ y / 4 := Nat.div_le_div_left (by decide) (by decide)
  rw [sum_monthLengths, daysBeforeYear, daysBeforeYear, Nat.add_sub_cancel, Nat.add_sub_cancel,
    Nat.succ_div, Nat.succ_div, Nat.succ_div, if_congr isLeapYear_iff rfl rfl]
  grind

theorem daysBeforeYear_mono {later : Nat} (h : 1 ≤ year) (hle : year ≤ later) :
    daysBeforeYear year ≤ daysBeforeYear later := by
  induction later, hle using Nat.le_induction with
  | base => exact Nat.le_refl _
  | succ n hn ih =>
    rw [daysBeforeYear_succ (Nat.le_trans h hn)]
    omega

/-! ## Months -/

/-- The days of a year before a month. -/
def daysBeforeMonth (year month : Nat) : Nat := ((monthLengths year).take (month - 1)).sum

/-- The days of a month. -/
def monthLength (year month : Nat) : Nat := (monthLengths year)[month - 1]?.getD 0

theorem ordinal_eq (d : Date) :
    d.ordinal = daysBeforeYear d.year + daysBeforeMonth d.year d.month + (d.day - 1) := rfl

theorem daysBeforeMonth_succ (year : Nat) (h : 1 ≤ month) (hle : month ≤ 12) :
    daysBeforeMonth year (month + 1) = daysBeforeMonth year month + monthLength year month := by
  obtain ⟨i, rfl⟩ := Nat.exists_eq_add_of_le' h
  have hi : i < (monthLengths year).length := hle
  rw [daysBeforeMonth, daysBeforeMonth, monthLength, Nat.add_sub_cancel, Nat.add_sub_cancel,
    List.sum_take_succ _ _ hi, List.getElem?_eq_getElem hi, Option.getD_some]

theorem daysBeforeMonth_mono {later : Nat} (h : month ≤ later) :
    daysBeforeMonth year month ≤ daysBeforeMonth year later :=
  List.monotone_sum_take _ (Nat.sub_le_sub_right h 1)

theorem daysBeforeMonth_thirteen : daysBeforeMonth year 13 = (monthLengths year).sum := rfl

/-- A date is in its month, -/
theorem IsValid.lt_monthEnd (h : d.IsValid) :
    daysBeforeMonth d.year d.month + (d.day - 1) < daysBeforeMonth d.year (d.month + 1) := by
  obtain ⟨-, -, hmonth, hmonth', hday, hday'⟩ := h
  have hlength : d.day ≤ monthLength d.year d.month := hday'
  rw [daysBeforeMonth_succ d.year hmonth hmonth']
  omega

/-- and in its year. -/
theorem IsValid.lt_yearEnd (h : d.IsValid) : d.ordinal < daysBeforeYear (d.year + 1) := by
  have hmonth := h.lt_monthEnd
  have hyear : daysBeforeMonth d.year (d.month + 1) ≤ daysBeforeMonth d.year 13 :=
    daysBeforeMonth_mono (Nat.succ_le_succ h.2.2.2.1)
  rw [daysBeforeMonth_thirteen] at hyear
  rw [ordinal_eq, daysBeforeYear_succ h.1]
  omega

/-! ## The day after -/

/-- The day after a date. -/
def next (d : Date) : Date :=
  if d.day < monthLength d.year d.month then ⟨d.year, d.month, d.day + 1⟩
  else if d.month < 12 then ⟨d.year, d.month + 1, 1⟩
  else ⟨d.year + 1, 1, 1⟩

/-- The day after a date has the next number. -/
theorem ordinal_next (h : d.IsValid) : d.next.ordinal = d.ordinal + 1 := by
  obtain ⟨hyear, -, hmonth, hmonth', hday, hday'⟩ := h
  have hlength : d.day ≤ monthLength d.year d.month := hday'
  have hsucc := daysBeforeMonth_succ d.year hmonth hmonth'
  unfold next
  split
  · rw [ordinal_eq, ordinal_eq]
    dsimp only
    omega
  · split
    · rw [ordinal_eq, ordinal_eq]
      dsimp only
      omega
    · -- The last month ends with its year.
      have hlast : d.month = 12 := by omega
      have hend : d.day = monthLength d.year d.month := by omega
      have hyears := daysBeforeYear_succ hyear
      have hfirst : daysBeforeMonth (d.year + 1) 1 = 0 := rfl
      rw [hlast, daysBeforeMonth_thirteen] at hsucc
      rw [ordinal_eq, ordinal_eq, hend, hlast]
      rw [hend, hlast] at hday
      dsimp only
      omega

/-! ## The date of a day number -/

/-- Counting days through months of given lengths ends in one of them. -/
theorem exists_monthAndDay (month : Nat) {days : Nat} {lengths : List Nat}
    (h : days < lengths.sum) :
    ∃ i r, i < lengths.length ∧ r < lengths[i]?.getD 0 ∧ days = (lengths.take i).sum + r ∧
      monthAndDay days month lengths = (month + i, r + 1) := by
  induction lengths generalizing days month with
  | nil => simp at h
  | cons length rest ih =>
    rw [List.sum_cons] at h
    rw [monthAndDay]
    split
    · exact ⟨0, days, by simp, by simpa, by simp, rfl⟩
    · have hrest : days - length < rest.sum := by omega
      obtain ⟨i, r, hi, hr, hdays, heq⟩ := ih (month + 1) hrest
      refine ⟨i + 1, r, Nat.succ_lt_succ hi, hr, ?_, ?_⟩
      · rw [List.take_succ_cons, List.sum_cons]
        omega
      · rw [heq, Nat.add_right_comm, Nat.add_assoc]

/-- The days before a year by its cycles of 400, 100 and 4 years. -/
theorem daysBeforeYear_cycles (era : Nat) {century cycle yearOfCycle : Nat} (hcentury : century ≤ 3)
    (hcycle : cycle ≤ 24) (hyear : yearOfCycle ≤ 3) :
    daysBeforeYear (400 * era + 100 * century + 4 * cycle + yearOfCycle + 1) =
      146097 * era + 36524 * century + 1461 * cycle + 365 * yearOfCycle := by
  have hfour : (400 * era + 100 * century + 4 * cycle + yearOfCycle) / 4 =
      100 * era + 25 * century + cycle := by omega
  have hhundred : (400 * era + 100 * century + 4 * cycle + yearOfCycle) / 100 =
      4 * era + century := by omega
  have hfourHundred : (400 * era + 100 * century + 4 * cycle + yearOfCycle) / 400 = era := by omega
  rw [daysBeforeYear, Nat.add_sub_cancel, hfour, hhundred, hfourHundred]
  omega

/-- Taking off the cycles of years leaves fewer days than a year has, where only the last year of 4
has a day more, and not the last of the first three centuries. -/
theorem exists_cycles (n : Nat) : ∃ era century cycle yearOfCycle days, century ≤ 3 ∧ cycle ≤ 24 ∧
    yearOfCycle ≤ 3 ∧
    n = 146097 * era + 36524 * century + 1461 * cycle + 365 * yearOfCycle + days ∧
    (days < 365 ∨ days = 365 ∧ yearOfCycle = 3 ∧ (cycle < 24 ∨ century = 3)) ∧
    ofOrdinal n =
      let year := 400 * era + 100 * century + 4 * cycle + yearOfCycle + 1
      let found := monthAndDay days 1 (monthLengths year)
      ⟨year, found.1, found.2⟩ := by
  refine ⟨_, _, _, _, _, Nat.min_le_right _ _, ?_, Nat.min_le_right _ _, ?_, ?_, rfl⟩
  · omega
  · omega
  · omega

/-- The date of a day number is in the year that the day is in. -/
theorem exists_year (n : Nat) : ∃ year days, 1 ≤ year ∧ n = daysBeforeYear year + days ∧
    days < (monthLengths year).sum ∧
    ofOrdinal n =
      let found := monthAndDay days 1 (monthLengths year)
      ⟨year, found.1, found.2⟩ := by
  obtain ⟨era, century, cycle, yearOfCycle, days, hcentury, hcycle, hyear, hn, hdays, heq⟩ :=
    exists_cycles n
  refine ⟨_, days, Nat.le_add_left 1 _, ?_, ?_, heq⟩
  · rw [daysBeforeYear_cycles era hcentury hcycle hyear, hn]
  · rw [sum_monthLengths, if_congr isLeapYear_iff rfl rfl]
    rcases hdays with hshort | ⟨hlong, hlast, hleap⟩
    · split <;> omega
    · rw [if_pos (by omega)]
      omega

/-- The date of a day number of the years 1 to 9999 is valid and has this number. -/
theorem exists_ordinal {n : Nat} (h : n < daysBeforeYear 10000) :
    (ofOrdinal n).IsValid ∧ (ofOrdinal n).ordinal = n := by
  obtain ⟨year, days, hyear, rfl, hdays, heq⟩ := exists_year n
  obtain ⟨i, r, hi, hr, rfl, hmonth⟩ := exists_monthAndDay 1 hdays
  have hlast : year ≤ 9999 := by
    by_contra hlate
    have hyears : daysBeforeYear 10000 ≤ daysBeforeYear year :=
      daysBeforeYear_mono (by decide) (by omega)
    omega
  rw [heq, hmonth]
  refine ⟨⟨hyear, hlast, Nat.le_add_right 1 i, ?_, Nat.le_add_left 1 r, ?_⟩, ?_⟩
  · have : i < 12 := hi
    dsimp only
    omega
  · rw [Nat.add_sub_cancel_left]
    exact hr
  · rw [ordinal_eq, daysBeforeMonth]
    simp [Nat.add_assoc]

/-! ## Order -/

/-- The fields of a date, the widest first. -/
def fields (d : Date) : List Nat := [d.year, d.month, d.day]

theorem fields_lt_iff : a.fields < b.fields ↔ a.year < b.year ∨ a.year = b.year ∧
    (a.month < b.month ∨ a.month = b.month ∧ a.day < b.day) := by
  simp [fields, List.cons_lt_cons_iff]

theorem eq_of_fields (h : a.fields = b.fields) : a = b := by
  obtain ⟨_, _, _⟩ := a
  obtain ⟨_, _, _⟩ := b
  simpa [fields] using h

/-- A date that comes before another has a lower number. -/
theorem ordinal_lt (ha : a.IsValid) (h : a.fields < b.fields) : a.ordinal < b.ordinal := by
  rw [fields_lt_iff] at h
  rcases h with hyear | ⟨hyear, hmonth | ⟨hmonth, hday⟩⟩
  · have hyears := daysBeforeYear_mono (Nat.le_add_left 1 a.year) hyear
    have hend := ha.lt_yearEnd
    rw [ordinal_eq b]
    omega
  · have hmonths : daysBeforeMonth a.year (a.month + 1) ≤ daysBeforeMonth a.year b.month :=
      daysBeforeMonth_mono hmonth
    have hend := ha.lt_monthEnd
    rw [ordinal_eq, ordinal_eq, ← hyear]
    omega
  · have hfirst := ha.2.2.2.2.1
    rw [ordinal_eq, ordinal_eq, ← hyear, ← hmonth]
    omega

theorem IsValid.ordinal_lt_last (h : d.IsValid) : d.ordinal < daysBeforeYear 10000 :=
  Nat.lt_of_lt_of_le h.lt_yearEnd
    (daysBeforeYear_mono (Nat.le_add_left 1 d.year) (Nat.succ_le_succ h.2.1))

theorem eq_of_ordinal (ha : a.IsValid) (hb : b.IsValid) (h : a.ordinal = b.ordinal) : a = b := by
  rcases lt_trichotomy a.fields b.fields with hlt | heq | hgt
  · exact absurd h (Nat.ne_of_lt (ordinal_lt ha hlt))
  · exact eq_of_fields heq
  · exact absurd h (Nat.ne_of_gt (ordinal_lt hb hgt))

/-! ## Day after day -/

theorem one_le_monthLength (year : Nat) (h : 1 ≤ month) (hle : month ≤ 12) :
    1 ≤ monthLength year month := by
  have hall : ∀ length ∈ monthLengths year, 1 ≤ length := by
    unfold monthLengths
    split <;> decide
  have hi : month - 1 < (monthLengths year).length := by
    change month - 1 < 12
    omega
  rw [monthLength, List.getElem?_eq_getElem hi, Option.getD_some]
  exact hall _ (List.getElem_mem hi)

/-- The day after a date is a date, but after the last day of the year 9999. -/
theorem IsValid.next (h : d.IsValid) (hlast : d.ordinal + 1 < daysBeforeYear 10000) :
    d.next.IsValid := by
  have hnext := ordinal_next h
  have htwelve : 1 ≤ 12 := by decide
  obtain ⟨hyear, hyear', hmonth, hmonth', hday, -⟩ := h
  unfold Date.next at hnext ⊢
  split
  · exact ⟨hyear, hyear', hmonth, hmonth', Nat.le_add_left 1 _, ‹_›⟩
  · split
    · exact ⟨hyear, hyear', Nat.le_add_left 1 _, ‹_›, Nat.le_refl 1,
        one_le_monthLength d.year (Nat.le_add_left 1 _) ‹_›⟩
    · have hin : d.year + 1 ≤ 9999 := by
        by_contra hout
        have hend : d.year = 9999 := by omega
        rw [if_neg ‹_›, if_neg ‹_›, hend] at hnext
        exact absurd hlast (Nat.not_lt.2 (Nat.le_of_eq hnext))
      exact ⟨Nat.le_add_left 1 _, hin, Nat.le_refl 1, htwelve, Nat.le_refl 1,
        one_le_monthLength (d.year + 1) (Nat.le_refl 1) htwelve⟩

theorem ofOrdinal_succ {n : Nat} (h : n + 1 < daysBeforeYear 10000) :
    ofOrdinal (n + 1) = (ofOrdinal n).next := by
  obtain ⟨hvalid, hordinal⟩ := exists_ordinal (Nat.lt_of_succ_lt h)
  obtain ⟨hvalid', hordinal'⟩ := exists_ordinal h
  refine eq_of_ordinal hvalid' (hvalid.next (by rwa [hordinal])) ?_
  rw [ordinal_next hvalid, hordinal, hordinal']

/-- The date of a day number is that many days after the first day of the year 1. -/
theorem iterate_next {n : Nat} (h : n < daysBeforeYear 10000) :
    next^[n] ⟨1, 1, 1⟩ = ofOrdinal n := by
  induction n with
  | zero => rfl
  | succ n ih => rw [Function.iterate_succ_apply', ih (Nat.lt_of_succ_lt h), ofOrdinal_succ h]

end Date

/-! ## Dates with a time of day -/

namespace CivilTime

variable {a b c : CivilTime}

/-- The start of the year 1. -/
def first : CivilTime := ⟨⟨1, 1, 1⟩, 0, 0, 0, 0⟩

/-- The last microsecond of the year 9999. -/
def last : CivilTime := ⟨⟨9999, 12, 31⟩, 23, 59, 59, 999999⟩

theorem micros_first : first.micros = 0 := rfl

theorem micros_last : last.micros + 1 = microsLimit := rfl

/-- The fields of a date and a time of day, the widest first. -/
def fields (c : CivilTime) : List Nat := c.date.fields ++ [c.hour, c.minute, c.second, c.micro]

theorem fields_lt_iff : a.fields < b.fields ↔ a.date.fields < b.date.fields ∨ a.date = b.date ∧
    (a.hour < b.hour ∨ a.hour = b.hour ∧ (a.minute < b.minute ∨ a.minute = b.minute ∧
      (a.second < b.second ∨ a.second = b.second ∧ a.micro < b.micro))) := by
  obtain ⟨⟨_, _, _⟩, _, _, _, _⟩ := a
  obtain ⟨⟨_, _, _⟩, _, _, _, _⟩ := b
  simp only [fields, Date.fields, List.cons_append, List.nil_append, List.cons_lt_cons_iff,
    Date.mk.injEq, List.not_lt_nil, and_false, or_false]
  grind

theorem eq_of_fields (h : a.fields = b.fields) : a = b := by
  obtain ⟨⟨_, _, _⟩, _, _, _, _⟩ := a
  obtain ⟨⟨_, _, _⟩, _, _, _, _⟩ := b
  simpa [fields, Date.fields, and_assoc] using h

/-- Fields that come before others have a lower count. -/
theorem micros_lt (ha : a.IsValid) (hb : b.IsValid) (h : a.fields < b.fields) :
    a.micros < b.micros := by
  obtain ⟨hdate, hhour, hminute, hsecond, hmicro⟩ := ha
  rw [micros, micros, microsPerDay]
  rcases fields_lt_iff.1 h with hlt | ⟨heq, htime⟩
  · have hdays := Date.ordinal_lt hdate hlt
    omega
  · obtain ⟨-, -, hminute', hsecond', hmicro'⟩ := hb
    rw [heq]
    omega

/-- The order of the fields is the order of the counts. -/
theorem micros_lt_iff (ha : a.IsValid) (hb : b.IsValid) :
    a.micros < b.micros ↔ a.fields < b.fields := by
  refine ⟨fun h => ?_, micros_lt ha hb⟩
  rcases lt_trichotomy a.fields b.fields with hlt | heq | hgt
  · exact hlt
  · rw [eq_of_fields heq] at h
    exact absurd h (Nat.lt_irrefl _)
  · exact absurd h (Nat.lt_asymm (micros_lt hb ha hgt))

theorem eq_of_micros (ha : a.IsValid) (hb : b.IsValid) (h : a.micros = b.micros) : a = b := by
  rcases lt_trichotomy a.fields b.fields with hlt | heq | hgt
  · exact absurd h (Nat.ne_of_lt (micros_lt ha hb hlt))
  · exact eq_of_fields heq
  · exact absurd h (Nat.ne_of_gt (micros_lt hb ha hgt))

/-- Valid fields are of the years 1 to 9999. -/
theorem IsValid.micros_lt_limit (h : c.IsValid) : c.micros < microsLimit := by
  obtain ⟨hdate, hhour, hminute, hsecond, hmicro⟩ := h
  have hdays : c.date.ordinal < 3652059 := hdate.ordinal_lt_last
  rw [micros, microsPerDay, microsLimit]
  omega

theorem days_lt {n : Nat} (h : n < microsLimit) : n / microsPerDay < Date.daysBeforeYear 10000 := by
  refine Nat.div_lt_of_lt_mul (Nat.lt_of_lt_of_eq h ?_)
  rfl

/-- The date of a count is as many days after the first day of the year 1 as the count has. -/
theorem date_ofMicros {n : Nat} (h : n < microsLimit) :
    (ofMicros n).date = Date.next^[n / microsPerDay] first.date :=
  (Date.iterate_next (days_lt h)).symm

/-- The fields of a count of the years 1 to 9999 are valid and have this count. -/
theorem micros_ofMicros {n : Nat} (h : n < microsLimit) :
    (ofMicros n).IsValid ∧ (ofMicros n).micros = n := by
  obtain ⟨hdate, hordinal⟩ := Date.exists_ordinal (days_lt h)
  have hday : n % microsPerDay < 86400000000 := Nat.mod_lt _ (by decide)
  have htime : (ofMicros n).hour < 24 ∧ (ofMicros n).minute < 60 ∧ (ofMicros n).second < 60 ∧
      (ofMicros n).micro < 1000000 := by
    dsimp only [ofMicros]
    omega
  refine ⟨⟨hdate, htime⟩, ?_⟩
  rw [micros]
  dsimp only [ofMicros]
  rw [hordinal, microsPerDay]
  omega

/-- Valid fields are those of their count. -/
theorem ofMicros_micros (h : c.IsValid) : ofMicros c.micros = c := by
  obtain ⟨hvalid, hmicros⟩ := micros_ofMicros h.micros_lt_limit
  exact eq_of_micros hvalid h hmicros

end CivilTime

end Chronicle
