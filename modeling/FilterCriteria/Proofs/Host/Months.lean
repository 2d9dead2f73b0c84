/-
Moving by months and by years. The months of the years 1 to 9999 are counted
from January of the year 1, and there are 119988 of them. A move succeeds
exactly when the month it leads to is one of these; it then keeps the time of
day, and the day of the month as far as the month has it. The limits of 32
and 64 bits on the way lie far outside, so that a number of years is a number
of months twelve times as large, whatever its size.

Whether there is a result depends on the month alone, and not on the time of
day: for a point on a whole tick, the last one of a day is still in range if
the day is (`inRange_iff_day`). Where it is not on a whole tick this fails,
by less than a tick after the greatest point in time, so the statements are
about points on whole ticks. The main statement is
`callDate_addMonths_addYears`.
-/
import FilterCriteria.Proofs.Host.DateParts

namespace FilterCriteria

namespace DateTime

variable {t : DateTime}

/-- A point in time in range is in one of the months. -/
theorem monthIndex_inRange (h : t.inRange = true) :
    0 ≤ t.date.monthIndex ∧ t.date.monthIndex < 119988 := by
  have hvalid := t.isValid_date
  have hyear := year_of_inRange h
  rw [Date.isValid_iff] at hvalid
  unfold Date.monthIndex
  omega

/-- A point on a whole tick is in range when its day is. -/
theorem inRange_iff_day {r : DateTime} (hnano : r.nano < 1000000000)
    (haligned : r.TickAligned) :
    r.inRange = true ↔ 0 ≤ r.day ∧ r.day ≤ 3652058 := by
  have hsecond := r.second_lt
  unfold TickAligned at haligned
  rw [inRange_iff]
  omega

/-- The month that a move leads to decides whether there is a result. -/
theorem addMonths?_inRange_iff (ht : t.Ordinary) (haligned : t.TickAligned)
    (months : Int) :
    let r := { t with day := (t.date.addMonths months).toDayNumber }
    r.inRange = true ↔ 0 ≤ t.date.monthIndex + months
      ∧ t.date.monthIndex + months < 119988 := by
  have hvalid :=
    Date.isValid_inMonth t.isValid_date (t.date.monthIndex + months)
  intro r
  have hday : r.day
      = (t.date.inMonth (t.date.monthIndex + months)).toDayNumber := by
    show (t.date.addMonths months).toDayNumber = _
    rw [Date.addMonths_eq]
  rw [inRange_iff_day (r := r) ht.nano_lt haligned, hday,
    Date.toDayNumber_inRange_iff hvalid]
  simp only [Date.inMonth]
  omega

/-- A move to a month that there is succeeds. -/
theorem addMonths?_eq_some (ht : t.Ordinary) (haligned : t.TickAligned)
    {months : Int} (hmin : 0 ≤ t.date.monthIndex + months)
    (hmax : t.date.monthIndex + months < 119988) :
    ∃ r, t.addMonths? months = some r
      ∧ r.date = t.date.inMonth (t.date.monthIndex + months)
      ∧ r.second = t.second ∧ r.nano = t.nano := by
  have hindex := monthIndex_inRange ht.inRange
  have hvalid :=
    Date.isValid_inMonth t.isValid_date (t.date.monthIndex + months)
  have hrange :=
    (addMonths?_inRange_iff ht haligned months).mpr ⟨hmin, hmax⟩
  -- from one of the months to another, the number of months fits 32 bits
  unfold addMonths?
  rw [if_pos (by omega)]
  dsimp only at hrange ⊢
  rw [if_pos hrange]
  refine ⟨_, rfl, ?_, rfl, rfl⟩
  refine date_eq hvalid ?_
  rw [Date.addMonths_eq]

/-- A move to any other month fails. -/
theorem addMonths?_eq_none (ht : t.Ordinary) (haligned : t.TickAligned)
    {months : Int} (hout : ¬ (0 ≤ t.date.monthIndex + months
      ∧ t.date.monthIndex + months < 119988)) :
    t.addMonths? months = none := by
  have hrange := mt (addMonths?_inRange_iff ht haligned months).mp hout
  unfold addMonths?
  split
  · dsimp only at hrange ⊢
    rw [if_neg hrange]
  · rfl

end DateTime

namespace Host

-- =============================================================== calls

theorem callDate_addMonths (t : DateTime) (m : Int64) :
    callDate t "AddMonths" [.long m] = dateOrFail (t.addMonths? m.toInt) := by
  rfl

/-- Months that do not fit 64 bits do not fit 32 bits either. -/
theorem callDate_addYears (t : DateTime) (y : Int64) :
    callDate t "AddYears" [.long y]
      = dateOrFail (t.addMonths? (12 * y.toInt)) := by
  show (orFail .dateOutOfRange (int64? (12 * y.toInt)) >>= fun months =>
    dateOrFail (t.addMonths? months.toInt)) = _
  cases hfits : int64? (12 * y.toInt) with
  | some months =>
      rw [← int64?_eq_some_iff.mp hfits]
      rfl
  | none =>
      have hlarge : ¬ (12 * y.toInt).natAbs < 4294967296 := by
        intro hsmall
        obtain ⟨k, hk⟩ := exists_toInt_eq (n := 12 * y.toInt) (by omega)
          (by omega)
        rw [int64?_eq_some_iff.mpr hk] at hfits
        cases hfits
      unfold DateTime.addMonths?
      rw [if_neg hlarge]
      rfl

-- =============================================================== moves

/-- The outcome of a move to the month with this index: a point in time in
that month, as far as there are months, at the same time of day. -/
def LandsIn (t : DateTime) (index : Int) (outcome : Except EvalError Value) :
    Prop :=
  (0 ≤ index ∧ index < 119988 → ∃ r, outcome = .ok (.dateTime r)
    ∧ r.date = t.date.inMonth index ∧ r.second = t.second ∧ r.nano = t.nano)
  ∧ (¬ (0 ≤ index ∧ index < 119988) →
    outcome = .error (.failed .dateOutOfRange))

/-- A move lands in its month, or fails for lack of one. -/
theorem landsIn_addMonths? {t : DateTime} (ht : t.Ordinary)
    (haligned : t.TickAligned) (months : Int) :
    LandsIn t (t.date.monthIndex + months)
      (dateOrFail (t.addMonths? months)) := by
  constructor
  · intro hin
    obtain ⟨r, hr, hdate⟩ :=
      DateTime.addMonths?_eq_some ht haligned hin.1 hin.2
    exact ⟨r, dateOrFail_eq_ok.mpr hr, hdate⟩
  · intro hout
    rw [DateTime.addMonths?_eq_none ht haligned hout]
    rfl

/-- Months and years are added by the calendar, for every number of them. From
a point on a whole tick, `AddMonths` leads to the month with the index of
its own and the number added, on the same day or the last one of that month,
whose length is the one of `DaysInMonth`; it fails where the years 1 to 9999
have no such month. A number of years counts as twelve times that many months,
and where these fit, the two calls are one. -/
theorem callDate_addMonths_addYears {t : DateTime} (ht : t.Ordinary)
    (haligned : t.TickAligned) (m y : Int64) :
    LandsIn t (t.date.monthIndex + m.toInt)
        (callDate t "AddMonths" [.long m])
    ∧ LandsIn t (t.date.monthIndex + 12 * y.toInt)
        (callDate t "AddYears" [.long y])
    ∧ (m.toInt = 12 * y.toInt → callDate t "AddYears" [.long y]
        = callDate t "AddMonths" [.long m])
    ∧ ∀ (zone : Zone) (year month : Int64),
      1 ≤ year.toInt ∧ year.toInt ≤ 9999 →
      1 ≤ month.toInt ∧ month.toInt ≤ 12 →
      callDateType zone "DaysInMonth" [.long year, .long month] = .ok (.int
        (Int32.ofNat (daysInMonth year.toInt month.toInt.toNat))) := by
  rw [callDate_addMonths, callDate_addYears]
  refine ⟨landsIn_addMonths? ht haligned m.toInt,
    landsIn_addMonths? ht haligned (12 * y.toInt), ?_, ?_⟩
  · intro heq
    rw [heq]
  · intro zone year month
    exact callDateType_daysInMonth zone

/-- From the last point in time there is: a month back ends on the thirtieth,
9998 years back is in the year 1, and a month or the most years forward or
back lead out of the calendar. -/
theorem callDate_addMonths_addYears_lastDay :
    (∃ r, callDate .maxValue "AddMonths" [.long (-1)] = .ok (.dateTime r)
      ∧ r.date = ⟨9999, 11, 30⟩ ∧ r.second = 86399 ∧ r.nano = 999999900)
    ∧ (∃ r, callDate .maxValue "AddYears" [.long (-9998)] = .ok (.dateTime r)
      ∧ r.date = ⟨1, 12, 31⟩ ∧ r.second = 86399 ∧ r.nano = 999999900)
    ∧ callDate .maxValue "AddMonths" [.long 1]
      = .error (.failed .dateOutOfRange)
    ∧ callDate .maxValue "AddYears" [.long Int64.minValue]
      = .error (.failed .dateOutOfRange) := by
  have hlast := DateTime.ordinary_maxValue
  obtain ⟨hback, hfirst, -⟩ :=
    callDate_addMonths_addYears hlast rfl (-1) (-9998)
  obtain ⟨hnext, hleast, -⟩ :=
    callDate_addMonths_addYears hlast rfl 1 Int64.minValue
  have hnovember : DateTime.maxValue.date.inMonth
      (DateTime.maxValue.date.monthIndex + (-1 : Int64).toInt)
        = ⟨9999, 11, 30⟩ := by
    decide +kernel
  have hyearOne : DateTime.maxValue.date.inMonth
      (DateTime.maxValue.date.monthIndex + 12 * (-9998 : Int64).toInt)
        = ⟨1, 12, 31⟩ := by
    decide +kernel
  refine ⟨?_, ?_, hnext.2 (by decide +kernel), hleast.2 (by decide +kernel)⟩
  · rw [← hnovember]
    exact hback.1 (by decide +kernel)
  · rw [← hyearOne]
    exact hfirst.1 (by decide +kernel)

end Host

end FilterCriteria
