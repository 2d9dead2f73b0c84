/-
Day numbers and dates name the same days. The way from a number to a date
goes in two steps, from the number to a year with the days past in it, and
from those to a month with its day; each step is shown to lose nothing, and
together they say that every day number is that of a date of the calendar.

The year is found by dividing, first by the days of 400 years, which are
always the same, then by those of a century, of four years and of one. A
division by the days of a century or a year may count one too many at the end
of its period, on the last day of a leap year, so these counts stop at 3
(`ofDayNumber_eq`). The month is found by going through the lengths of the
months (`walkMonths_eq`). Day numbers are integers of any size, so the years
are too.
-/
import Mathlib.Algebra.Ring.Nat
import FilterCriteria.Time.Calendar

namespace FilterCriteria

namespace Date

-- ============================================================== months

/-- Walking over the months stops in the month that the day falls into: the
months in front of it and the rest make up the days there were. -/
theorem walkMonths_eq {lengths : List Nat} {days : Nat} (month : Nat)
    (h : days < lengths.sum) :
    ∃ k rest, walkMonths lengths month days = (month + k, rest + 1)
      ∧ k < lengths.length ∧ rest < lengths.getD k 0
      ∧ (lengths.take k).sum + rest = days := by
  induction lengths generalizing month days with
  | nil => simp at h
  | cons length lengths ih =>
      unfold walkMonths
      by_cases hlt : days < length
      · rw [if_pos hlt]
        refine ⟨0, days, rfl, by simp, by simpa using hlt, by simp⟩
      · rw [if_neg hlt]
        rw [List.sum_cons] at h
        obtain ⟨k, rest, hwalk, hk, hrest, hsum⟩ :=
          ih (month + 1) (show days - length < lengths.sum by omega)
        refine ⟨k + 1, rest, ?_, ?_, ?_, ?_⟩
        · rw [hwalk, Nat.add_assoc, Nat.add_comm 1 k]
        · simpa using hk
        · simpa using hrest
        · rw [List.take_succ_cons, List.sum_cons]
          omega

/-- No month has more than 31 days, also where there is no such month. -/
theorem daysInMonth_le (year : Int) (month : Nat) :
    daysInMonth year month ≤ 31 := by
  have hle : ∀ leap, ∀ length ∈ monthLengths leap, length ≤ 31 := by decide
  cases month with
  | zero => exact Nat.zero_le _
  | succ k =>
      simp only [daysInMonth, List.getD_eq_getElem?_getD]
      cases h : (monthLengths (isLeapYear year))[k]? with
      | none => exact Nat.zero_le _
      | some length => exact hle _ _ (List.mem_of_getElem? h)

/-- The number of days of a year. -/
def daysInYear (year : Int) : Nat :=
  if isLeapYear year then 366 else 365

/-- The months of a year make up its days. -/
theorem sum_monthLengths (year : Int) :
    (monthLengths (isLeapYear year)).sum = daysInYear year := by
  unfold daysInYear
  cases isLeapYear year <;> rfl

/-- The date with so many days in front of it in its year. -/
def ofYearDay (year : Int) (days : Nat) : Date :=
  let (month, day) := walkMonths (monthLengths (isLeapYear year)) 1 days
  ⟨year, month, day⟩

variable {year : Int} {days : Nat}

/-- A day of a year is a day of one of its months, behind the months before. -/
theorem ofYearDay_eq (h : days < daysInYear year) :
    ∃ k rest, ofYearDay year days = ⟨year, k + 1, rest + 1⟩
      ∧ k < 12 ∧ rest < daysInMonth year (k + 1)
      ∧ daysBeforeMonth year (k + 1) + rest = days := by
  rw [← sum_monthLengths] at h
  obtain ⟨k, rest, hwalk, hk, hrest, hsum⟩ := walkMonths_eq 1 h
  refine ⟨k, rest, ?_, hk, hrest, hsum⟩
  unfold ofYearDay
  rw [hwalk, Nat.add_comm 1 k]

theorem isValid_ofYearDay (h : days < daysInYear year) :
    (ofYearDay year days).isValid = true := by
  obtain ⟨k, rest, heq, hk, hrest, -⟩ := ofYearDay_eq h
  rw [heq]
  simp only [isValid, Bool.and_eq_true, decide_eq_true_eq]
  omega

theorem toDayNumber_ofYearDay (h : days < daysInYear year) :
    (ofYearDay year days).toDayNumber = daysBeforeYear year + days := by
  obtain ⟨k, rest, heq, -, -, hsum⟩ := ofYearDay_eq h
  rw [heq]
  simp only [toDayNumber, dayOfYear]
  omega

-- =============================================================== years

/-- The day number of a date is that of its year's first day and the days
past. The counts of centuries and of years stop at 3, and one more day than
usual is left over there exactly when the year is a leap year. -/
theorem ofDayNumber_eq (n : Int) :
    ∃ year days, ofDayNumber n = ofYearDay year days
      ∧ days < daysInYear year ∧ daysBeforeYear year + days = n := by
  let inPeriod := (n % 146097).toNat
  let century := min (inPeriod / 36524) 3
  let inCentury := inPeriod - century * 36524
  let four := inCentury / 1461
  let inFour := inCentury % 1461
  let one := min (inFour / 365) 3
  let year : Int := n / 146097 * 400 + century * 100 + four * 4 + one + 1
  refine ⟨year, inFour - one * 365, rfl, ?_, ?_⟩
  · have hleap : inFour - one * 365 = 365 → isLeapYear year = true := by
      intro h
      simp only [isLeapYear, Bool.or_eq_true, Bool.and_eq_true, beq_iff_eq,
        bne_iff_ne]
      omega
    unfold daysInYear
    split
    · omega
    · rename_i hcommon
      have hne : inFour - one * 365 ≠ 365 := fun h => hcommon (hleap h)
      omega
  · have hfour : four < 25 := by omega
    have h4 : (year - 1) / 4 = n / 146097 * 100 + century * 25 + four := by
      omega
    have h100 : (year - 1) / 100 = n / 146097 * 4 + century := by omega
    have h400 : (year - 1) / 400 = n / 146097 := by omega
    simp only [daysBeforeYear, h4, h100, h400]
    omega

/-- Every day number stands for a date of the calendar. -/
theorem isValid_ofDayNumber (n : Int) : (ofDayNumber n).isValid = true := by
  obtain ⟨year, days, heq, hdays, -⟩ := ofDayNumber_eq n
  rw [heq]
  exact isValid_ofYearDay hdays

/-- The date of a day number has that number, however far back or ahead it is.
-/
theorem toDayNumber_ofDayNumber (n : Int) :
    (ofDayNumber n).toDayNumber = n := by
  obtain ⟨year, days, heq, hdays, hn⟩ := ofDayNumber_eq n
  rw [heq, toDayNumber_ofYearDay hdays, hn]

end Date

end FilterCriteria
