/-
Dates and day numbers, from the side of the dates. A year takes up the day
numbers between its first day and that of the next year, and in it a month
those between its first day and that of the next month; so a valid date is
the one that its day number stands for. The years 1 to 9999 are told by the
day number alone, and moving by months leads from valid dates to valid dates.

Together with the way from day numbers to dates this makes a bijection
between integers and valid dates. The argument here is by order: a later year
begins later (`daysBeforeYear_mono`), in a year a later month begins later
(`daysBeforeMonth_add_le`), so equal day numbers have equal years, months and
days (`eq_of_toDayNumber_eq`).

Moves by months count the months from January of the year 1 (`monthIndex`), so
that a move is an addition; the day of the month is kept or becomes the last
one that the month has (`inMonth`).
-/
import Mathlib.Data.Nat.Init
import Mathlib.Tactic.ByContra
import FilterCriteria.Proofs.Time.Range

namespace FilterCriteria

-- =============================================================== years

/-- A year is followed by the next one: among the counts of past years, that
of the leap years alone grows when the year is one. -/
theorem daysBeforeYear_succ (year : Int) :
    daysBeforeYear (year + 1) = daysBeforeYear year + Date.daysInYear year := by
  have hleap : isLeapYear year = true
      ↔ (year % 4 = 0 ∧ year % 100 ≠ 0) ∨ year % 400 = 0 := by
    simp only [isLeapYear, Bool.or_eq_true, Bool.and_eq_true, beq_iff_eq,
      bne_iff_ne]
  unfold daysBeforeYear Date.daysInYear
  dsimp only
  by_cases h : isLeapYear year = true
  · rw [if_pos h]
    rw [hleap] at h
    omega
  · rw [if_neg h]
    rw [hleap] at h
    omega

/-- Later years begin later. -/
theorem daysBeforeYear_mono {year later : Int} (h : year ≤ later) :
    daysBeforeYear year ≤ daysBeforeYear later := by
  simp only [daysBeforeYear]
  omega

-- ============================================================== months

/-- A month is followed by the next one. -/
theorem daysBeforeMonth_succ (year : Int) {month : Nat} (hpos : 1 ≤ month)
    (hle : month ≤ 12) :
    daysBeforeMonth year (month + 1)
      = daysBeforeMonth year month + daysInMonth year month := by
  have hmonths : ∀ leap, ∀ k < 12,
      ((monthLengths leap).take (k + 1)).foldr (· + ·) 0
        = ((monthLengths leap).take k).foldr (· + ·) 0
          + (monthLengths leap).getD k 0 := by
    decide
  obtain ⟨k, rfl⟩ : ∃ k, month = k + 1 := ⟨month - 1, by omega⟩
  exact hmonths (isLeapYear year) k (by omega)

/-- All of a month comes before any later one. -/
theorem daysBeforeMonth_add_le (year : Int) {month later : Nat}
    (hpos : 1 ≤ month) (h : month < later) (hle : later ≤ 12) :
    daysBeforeMonth year month + daysInMonth year month
      ≤ daysBeforeMonth year later := by
  induction later, h using Nat.le_induction with
  | base =>
      exact Nat.le_of_eq (daysBeforeMonth_succ year hpos (by omega)).symm
  | succ later h ih =>
      rw [daysBeforeMonth_succ year (by omega) (by omega)]
      exact Nat.le_add_right_of_le (ih (by omega))

/-- A month has a day. -/
theorem daysInMonth_pos (year : Int) {month : Nat} (hpos : 1 ≤ month)
    (hle : month ≤ 12) : 1 ≤ daysInMonth year month := by
  have hmonths : ∀ leap, ∀ k < 12, 1 ≤ (monthLengths leap).getD k 0 := by
    decide
  obtain ⟨k, rfl⟩ : ∃ k, month = k + 1 := ⟨month - 1, by omega⟩
  exact hmonths (isLeapYear year) k (by omega)

namespace Date

variable {d e : Date}

-- ========================================================= day numbers

theorem isValid_iff :
    d.isValid = true ↔ 1 ≤ d.month ∧ d.month ≤ 12 ∧ 1 ≤ d.day
      ∧ d.day ≤ daysInMonth d.year d.month := by
  simp only [isValid, Bool.and_eq_true, decide_eq_true_eq]
  omega

/-- The days of a year lie before the first of the next one. -/
theorem toDayNumber_bounds (h : d.isValid = true) :
    daysBeforeYear d.year ≤ d.toDayNumber
      ∧ d.toDayNumber < daysBeforeYear (d.year + 1) := by
  obtain ⟨hpos, hle⟩ := dayOfYear_le h
  rw [daysBeforeYear_succ]
  unfold toDayNumber
  omega

/-- A day that is no later is in a year that is no later. -/
theorem year_le_of_toDayNumber (hd : d.isValid = true)
    (he : e.isValid = true) (h : d.toDayNumber ≤ e.toDayNumber) :
    d.year ≤ e.year := by
  by_contra hlt
  have hyears : daysBeforeYear (e.year + 1) ≤ daysBeforeYear d.year :=
    daysBeforeYear_mono (by omega)
  have hd' := (toDayNumber_bounds hd).1
  have he' := (toDayNumber_bounds he).2
  omega

/-- In one year, a day that is no later is in a month that is no later. -/
theorem month_le_of_dayOfYear (hd : d.isValid = true)
    (he : e.isValid = true) (hyear : d.year = e.year)
    (h : d.dayOfYear ≤ e.dayOfYear) : d.month ≤ e.month := by
  rw [isValid_iff] at hd he
  by_contra hlt
  have hmonths : daysBeforeMonth e.year e.month + daysInMonth e.year e.month
      ≤ daysBeforeMonth e.year d.month :=
    daysBeforeMonth_add_le e.year (by omega) (by omega) (by omega)
  unfold dayOfYear at h
  rw [hyear] at h
  omega

/-- A day number stands for one date. -/
theorem eq_of_toDayNumber_eq (hd : d.isValid = true) (he : e.isValid = true)
    (h : d.toDayNumber = e.toDayNumber) : d = e := by
  have hyear : d.year = e.year :=
    Int.le_antisymm (year_le_of_toDayNumber hd he (Int.le_of_eq h))
      (year_le_of_toDayNumber he hd (Int.le_of_eq h.symm))
  have hday : d.dayOfYear = e.dayOfYear := by
    unfold toDayNumber at h
    rw [hyear] at h
    omega
  have hmonth : d.month = e.month :=
    Nat.le_antisymm (month_le_of_dayOfYear hd he hyear (Nat.le_of_eq hday))
      (month_le_of_dayOfYear he hd hyear.symm (Nat.le_of_eq hday.symm))
  unfold dayOfYear at hday
  rw [hyear, hmonth] at hday
  cases d
  cases e
  simp only at hyear hmonth hday
  subst hyear hmonth
  rw [Nat.add_left_cancel hday]

/-- A valid date is the date of its day number. -/
theorem ofDayNumber_toDayNumber (h : d.isValid = true) :
    ofDayNumber d.toDayNumber = d :=
  eq_of_toDayNumber_eq (isValid_ofDayNumber _) h (toDayNumber_ofDayNumber _)

/-- The years 1 to 9999 have the day numbers 0 to 3652058, and no other year
has one of these. -/
theorem toDayNumber_inRange_iff (h : d.isValid = true) :
    0 ≤ d.toDayNumber ∧ d.toDayNumber ≤ 3652058
      ↔ 1 ≤ d.year ∧ d.year ≤ 9999 := by
  constructor
  · intro hrange
    obtain ⟨hfirst, hlast⟩ := toDayNumber_bounds h
    constructor
    · by_contra hlt
      have hyears : daysBeforeYear (d.year + 1) ≤ daysBeforeYear 1 :=
        daysBeforeYear_mono (by omega)
      have hzero : daysBeforeYear 1 = 0 := rfl
      omega
    · by_contra hlt
      have hyears : daysBeforeYear 10000 ≤ daysBeforeYear d.year :=
        daysBeforeYear_mono (by omega)
      have hend : daysBeforeYear 10000 = 3652059 := rfl
      omega
  · intro hyears
    exact toDayNumber_of_year h hyears.1 hyears.2

-- ======================================================== other months

/-- The months from January of the year 1 to that of the date. -/
def monthIndex (d : Date) : Int :=
  12 * (d.year - 1) + ((d.month : Int) - 1)

/-- The day of the date in the month that comes so many months after January
of the year 1, or the last day of that month, if it is shorter. -/
def inMonth (d : Date) (index : Int) : Date :=
  let year := index / 12 + 1
  let month := (index % 12).toNat + 1
  ⟨year, month, min d.day (daysInMonth year month)⟩

/-- Moving by months is moving to the month with that index. -/
theorem addMonths_eq (d : Date) (months : Int) :
    d.addMonths months = d.inMonth (d.monthIndex + months) := by
  have hyear : (d.year * 12 + (d.month - 1) + months) / 12
      = (d.monthIndex + months) / 12 + 1 := by
    unfold monthIndex
    omega
  have hmonth : (d.year * 12 + (d.month - 1) + months) % 12
      = (d.monthIndex + months) % 12 := by
    unfold monthIndex
    omega
  simp only [addMonths, inMonth, hyear, hmonth]

/-- A day that the month has not becomes its last one, so the result is valid.
-/
theorem isValid_inMonth (h : d.isValid = true) (index : Int) :
    (d.inMonth index).isValid = true := by
  rw [isValid_iff] at h ⊢
  have hpos : 1 ≤ daysInMonth (index / 12 + 1) ((index % 12).toNat + 1) :=
    daysInMonth_pos _ (by omega) (by omega)
  simp only [inMonth]
  omega

theorem daysBeforeMonth_end (year : Int) :
    daysBeforeMonth year 13 = daysInYear year := by
  unfold daysBeforeMonth daysInYear
  cases isLeapYear year <;> rfl

/-- A month later than the first of a month is the first of the next one. -/
theorem addMonths_first (year : Int) {month : Nat} (hpos : 1 ≤ month)
    (hle : month ≤ 12) :
    addMonths ⟨year, month, 1⟩ 1
      = if month < 12 then ⟨year, month + 1, 1⟩ else ⟨year + 1, 1, 1⟩ := by
  have hday : ∀ y, ∀ m, 1 ≤ m → m ≤ 12 → min 1 (daysInMonth y m) = 1 := by
    intro y m hm hm'
    exact Nat.min_eq_left (daysInMonth_pos y hm hm')
  by_cases hlt : month < 12
  · have hyear : (year * 12 + ((month : Int) - 1) + 1) / 12 = year := by omega
    have hmonth : ((year * 12 + ((month : Int) - 1) + 1) % 12).toNat
        = month := by
      omega
    rw [if_pos hlt]
    simp only [addMonths, hyear, hmonth]
    rw [hday _ _ (by omega) (by omega)]
  · have hyear : (year * 12 + ((month : Int) - 1) + 1) / 12 = year + 1 := by
      omega
    have hmonth : ((year * 12 + ((month : Int) - 1) + 1) % 12).toNat = 0 := by
      omega
    rw [if_neg hlt]
    simp only [addMonths, hyear, hmonth]
    rw [hday _ _ (by omega) (by omega)]

/-- A month is as long as it takes from its first day to that of the next
one. -/
theorem toDayNumber_nextMonth (year : Int) {month : Nat} (hpos : 1 ≤ month)
    (hle : month ≤ 12) :
    (addMonths ⟨year, month, 1⟩ 1).toDayNumber - toDayNumber ⟨year, month, 1⟩
      = daysInMonth year month := by
  rw [addMonths_first year hpos hle]
  by_cases hlt : month < 12
  · have hnext := daysBeforeMonth_succ year hpos hle
    rw [if_pos hlt]
    simp only [toDayNumber, dayOfYear]
    omega
  · -- december ends with its year
    obtain rfl : month = 12 := by omega
    have hjanuary : daysBeforeMonth (year + 1) 1 = 0 := rfl
    have hdecember : daysBeforeMonth year 13
        = daysBeforeMonth year 12 + daysInMonth year 12 :=
      daysBeforeMonth_succ year hpos hle
    have hend := daysBeforeMonth_end year
    have hyear := daysBeforeYear_succ year
    rw [if_neg hlt]
    simp only [toDayNumber, dayOfYear]
    omega

end Date

namespace DateTime

variable {t : DateTime}

-- ============================================================ the date

theorem toDayNumber_date (t : DateTime) : t.date.toDayNumber = t.day :=
  Date.toDayNumber_ofDayNumber t.day

theorem date_eq {d : Date} (hvalid : d.isValid = true)
    (h : t.day = d.toDayNumber) : t.date = d := by
  unfold date
  rw [h, Date.ofDayNumber_toDayNumber hvalid]

/-- A point in time in range is in the years 1 to 9999. -/
theorem year_of_inRange (h : t.inRange = true) :
    1 ≤ t.date.year ∧ t.date.year ≤ 9999 := by
  rw [inRange_iff] at h
  rw [← Date.toDayNumber_inRange_iff t.isValid_date, toDayNumber_date]
  omega

end DateTime

end FilterCriteria
