import Chronicle.Proofs.Except
import Chronicle.Proofs.Time.Calendar
import Chronicle.Time.Moment

/-!
# Universal time

The reading of universal time at a moment is found by counting: the microseconds of the moment's
calendar fields less its offset are those of the fields in universal time. There is such a reading
exactly if the calendar has these fields, and readings of universal time are ordered as the instants
that they name.

## Main statements

* `WallTime.ofCivil?_eq_some_iff` — readings and valid calendar fields belong together.
* `Moment.toNaive_eq_ok_iff`, `Moment.toNaive_eq_error_iff` — universal time at a moment.
* `Moment.before_naive` — moments without an offset compare field by field.
* `toNaive_orderIso` — universal time keeps and reflects the order of instants.
-/

namespace Chronicle

/-! ## Readings and calendar fields -/

namespace WallTime

variable {c : CivilTime} {s t : WallTime}

theorem civil_isValid (t : WallTime) : t.civil.IsValid :=
  (CivilTime.micros_ofMicros t.micros_lt).1

theorem micros_civil (t : WallTime) : t.civil.micros = t.micros :=
  (CivilTime.micros_ofMicros t.micros_lt).2

/-- A reading is found from its fields, and only from them. -/
theorem ofCivil?_eq_some_iff : ofCivil? c = some t ↔ c.IsValid ∧ t.civil = c := by
  constructor
  · intro h
    unfold ofCivil? at h
    split at h
    · rename_i hvalid
      have hmicros : t.micros = c.micros := Int.ofNat_inj.1 (micros_of_ofMicros? h)
      refine ⟨hvalid, ?_⟩
      rw [civil, hmicros, CivilTime.ofMicros_micros hvalid]
    · cases h
  · rintro ⟨hvalid, rfl⟩
    rw [ofCivil?, if_pos hvalid, micros_civil, ofMicros?_micros]

/-- Valid fields are those of a reading. -/
theorem exists_ofCivil? (h : c.IsValid) : ∃ t, ofCivil? c = some t := by
  refine ⟨⟨c.micros, h.micros_lt_limit⟩, ofCivil?_eq_some_iff.2 ⟨h, ?_⟩⟩
  exact CivilTime.ofMicros_micros h

theorem micros_of_ofCivil? (h : ofCivil? c = some t) : t.micros = c.micros := by
  obtain ⟨-, rfl⟩ := ofCivil?_eq_some_iff.1 h
  exact t.micros_civil.symm

/-- The order of the fields is the order of the readings. -/
theorem civil_lt_iff : s.civil.fields < t.civil.fields ↔ s.micros < t.micros := by
  rw [← CivilTime.micros_lt_iff s.civil_isValid t.civil_isValid, micros_civil, micros_civil]

theorem civil_fields_inj : s.civil.fields = t.civil.fields ↔ s.micros = t.micros := by
  constructor
  · intro h
    rw [← s.micros_civil, ← t.micros_civil, CivilTime.eq_of_fields h]
  · intro h
    rw [civil, civil, h]

end WallTime

/-! ## Moments -/

namespace Moment

variable {m : Moment} {t : WallTime}

/-- The reading in universal time is that of the instant, if the calendar has it. -/
theorem utc_eq_ofMicros? (m : Moment) :
    m.utc = (WallTime.ofMicros? m.instant).elim (.error .outOfRange) .ok := by
  cases m with
  | naive t => simp [utc, instant, WallTime.ofMicros?_micros]
  | aware t offset =>
    rw [utc, instant]
    cases WallTime.ofMicros? (t.micros - offset) <;> rfl

/-- Universal time reads what is as far from the start of year 1 as the instant. -/
theorem toNaive_eq_ok_iff : m.toNaive = .ok (naive t) ↔ (t.micros : Int) = m.instant := by
  constructor
  · intro h
    obtain ⟨u, hu, heq⟩ := map_eq_ok_iff.1 h
    cases heq
    exact instant_of_utc hu
  · intro h
    rw [toNaive, utc_eq_ofMicros?, ← h, WallTime.ofMicros?_micros]
    rfl

/-- Universal time has a reading of every instant of the years 1 to 9999, -/
theorem exists_toNaive (hfirst : CivilTime.first.micros ≤ m.instant)
    (hlast : m.instant ≤ CivilTime.last.micros) : ∃ t, m.toNaive = .ok (naive t) := by
  have hlimit : (CivilTime.last.micros : Int) + 1 = microsLimit :=
    congrArg Int.ofNat CivilTime.micros_last
  have hnonneg : 0 ≤ m.instant := hfirst
  refine ⟨⟨m.instant.toNat, by omega⟩, toNaive_eq_ok_iff.2 ?_⟩
  exact Int.toNat_of_nonneg hnonneg

/-- and of no other. -/
theorem toNaive_eq_error_iff : m.toNaive = .error .outOfRange ↔
    m.instant < CivilTime.first.micros ∨ CivilTime.last.micros < m.instant := by
  constructor
  · intro h
    by_contra hin
    obtain ⟨hfirst, hlast⟩ := not_or.1 hin
    obtain ⟨t, ht⟩ := exists_toNaive (Int.not_lt.1 hfirst) (Int.not_lt.1 hlast)
    rw [ht] at h
    cases h
  · intro hout
    have hlimit : (CivilTime.last.micros : Int) + 1 = microsLimit :=
      congrArg Int.ofNat CivilTime.micros_last
    have hnone : WallTime.ofMicros? m.instant = none := by
      rw [CivilTime.micros_first] at hout
      exact WallTime.ofMicros?_eq_none_iff.2 (by omega)
    rw [toNaive, utc_eq_ofMicros?, hnone]
    rfl

/-- Moments without an offset compare field by field. -/
theorem before_naive (s t : WallTime) :
    (naive s).before (naive t) = .ok (decide (s.civil.fields < t.civil.fields)) := by
  have hlt : (s.micros : Int) < t.micros ↔ s.civil.fields < t.civil.fields := by
    rw [Int.ofNat_lt, WallTime.civil_lt_iff]
  exact congrArg Except.ok (decide_eq_decide.2 hlt)

end Moment

open Moment in
/-- Universal time keeps and reflects the order of instants. Valid calendar fields are those of a
reading; take two such readings, on clocks with any offsets. Universal time has no reading exactly
if the fields less the offset fall outside the years 1 to 9999, and else its reading has the valid
calendar fields at that distance from the start of year 1, with the date that counting day after day
leads to. The reading at one moment comes before that at another, compared field by field, exactly
if its instant does, and they have the same fields exactly if the instants are the same. A moment
without an offset is its own reading, so what has been read once stays as it is. -/
theorem toNaive_orderIso {a b : CivilTime} (ha : a.IsValid) (hb : b.IsValid) (p q : Int) :
    ∃ s t, WallTime.ofCivil? a = some s ∧ WallTime.ofCivil? b = some t ∧
      let x : Int := a.micros - p
      let y : Int := b.micros - q
      ((aware s p).toNaive = .error .outOfRange ↔
        x < CivilTime.first.micros ∨ CivilTime.last.micros < x) ∧
      (CivilTime.first.micros ≤ x → x ≤ CivilTime.last.micros →
        ∃ u, (aware s p).toNaive = .ok (naive u) ∧ u.civil.IsValid ∧ u.civil.micros = x ∧
          u.civil.date = Date.next^[(x / microsPerDay).toNat] CivilTime.first.date) ∧
      (∀ u v, (aware s p).toNaive = .ok (naive u) → (aware t q).toNaive = .ok (naive v) →
        (naive u).before (naive v) = .ok (decide (u.civil.fields < v.civil.fields)) ∧
        (u.civil.fields < v.civil.fields ↔ x < y) ∧
        (u.civil.fields = v.civil.fields ↔ x = y)) ∧
      (∀ r, (naive r).toNaive = .ok (naive r)) ∧
      ∀ r, (aware s p).toNaive = .ok r → r.toNaive = .ok r := by
  obtain ⟨s, hs⟩ := WallTime.exists_ofCivil? ha
  obtain ⟨t, ht⟩ := WallTime.exists_ofCivil? hb
  have hx : (aware s p).instant = a.micros - p := by rw [instant, WallTime.micros_of_ofCivil? hs]
  have hy : (aware t q).instant = b.micros - q := by rw [instant, WallTime.micros_of_ofCivil? ht]
  rw [← hx, ← hy]
  refine ⟨s, t, hs, ht, toNaive_eq_error_iff, fun hfirst hlast => ?_, fun u v hu hv => ?_,
    fun r => rfl, fun r hr => ?_⟩
  · obtain ⟨u, hu⟩ := exists_toNaive hfirst hlast
    refine ⟨u, hu, u.civil_isValid, ?_, ?_⟩
    · rw [u.micros_civil, toNaive_eq_ok_iff.1 hu]
    · rw [← toNaive_eq_ok_iff.1 hu, ← Int.natCast_ediv, Int.toNat_natCast]
      exact CivilTime.date_ofMicros u.micros_lt
  · refine ⟨before_naive u v, ?_, ?_⟩
    · rw [WallTime.civil_lt_iff, ← toNaive_eq_ok_iff.1 hu, ← toNaive_eq_ok_iff.1 hv, Int.ofNat_lt]
    · rw [WallTime.civil_fields_inj, ← toNaive_eq_ok_iff.1 hu, ← toNaive_eq_ok_iff.1 hv,
        Int.ofNat_inj]
  · obtain ⟨u, -, rfl⟩ := map_eq_ok_iff.1 hr
    rfl

open Moment in
/-- Half past eleven on a leap day, two hours behind universal time, is later than two in the night
after, an hour ahead of it. -/
theorem toNaive_orderIso_leapDay :
    let a : CivilTime := ⟨⟨2024, 2, 29⟩, 23, 30, 0, 0⟩
    let b : CivilTime := ⟨⟨2024, 3, 1⟩, 2, 0, 0, 0⟩
    let hour : Int := 3600000000
    a.IsValid ∧ b.IsValid ∧ a.fields < b.fields ∧
      ∃ s t u v, WallTime.ofCivil? a = some s ∧ WallTime.ofCivil? b = some t ∧
        (aware s (-2 * hour)).toNaive = .ok (naive u) ∧ (aware t hour).toNaive = .ok (naive v) ∧
        v.civil.fields < u.civil.fields := by
  intro a b hour
  have ha : a.IsValid := by decide
  have hb : b.IsValid := by decide
  obtain ⟨s, t, hs, ht, -, hread, -⟩ := toNaive_orderIso ha hb (-2 * hour) hour
  obtain ⟨t', s', ht', hs', -, hread', horder, -⟩ := toNaive_orderIso hb ha hour (-2 * hour)
  obtain rfl := Option.some.inj (ht.symm.trans ht')
  obtain rfl := Option.some.inj (hs.symm.trans hs')
  obtain ⟨u, hu, -⟩ := hread (by decide) (by decide)
  obtain ⟨v, hv, -⟩ := hread' (by decide) (by decide)
  exact ⟨ha, hb, by decide, s, t, u, v, hs, ht, hu, hv, (horder v u hv hu).2.1.2 (by decide)⟩

end Chronicle
