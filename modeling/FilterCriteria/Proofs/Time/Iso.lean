/-
The interchange form of a point in time is read back as the point in time
it was written for, or as the one it shows. Each field has a reader; the
lemmas here run a reader on its own field with the rest of the text behind it,
and the whole form chains them.

# Fields

A field of fixed width is read as so many digits, and what follows does not
matter. A year may have more than four digits, and then has a sign, as its
reader takes all digits that there are (`year?_signed`). A fraction is written
with as many digits as it needs, by threes, and is filled up again when it is
read (`fraction?_padded`).

# Leap seconds

The form has a name for a leap second after the last second of a minute, the
second 60, and none for a leap second after any other one: it writes that as
the next second (`DateTime.shown`). So the form is read as the point in time
that it shows (`ofIso?_iso`), and that is the one it was written for exactly
when a leap second, if it is one, ends a minute (`shown_eq_self_iff`).
-/
import Mathlib.Data.List.TakeWhile
import FilterCriteria.Proofs.Number.Digits
import FilterCriteria.Proofs.Time.Range
import FilterCriteria.Time.Text

namespace FilterCriteria

theorem isBlank_of_isDigit {c : Char} (h : isDigit c = true) :
    isBlank c = false := by
  have h0 : '0'.toNat = 48 := rfl
  have h9 : '9'.toNat = 57 := rfl
  simp only [isDigit, h0, h9, Bool.and_eq_true, decide_eq_true_eq] at h
  simp only [isBlank, Bool.or_eq_false_iff, Bool.and_eq_false_iff,
    decide_eq_false_iff_not, beq_eq_false_iff_ne]
  omega

namespace DateTime

variable {rest : List Char}

-- ============================================================== fields

theorem skipBlanks_padded (width n : Nat) (rest : List Char) :
    skipBlanks ((padded width n).toList ++ rest) =
      (padded width n).toList ++ rest := by
  obtain ⟨c, cs, hcs, hc⟩ := padded_eq_cons width n
  rw [hcs]
  exact dropWhile_of_stops (stops_cons _ (isBlank_of_isDigit hc))

/-- A mark is read off the front. -/
theorem mark?_self {c : Char} (hc : isBlank c = false) :
    mark? c (c :: rest) = some rest := by
  have h : skipBlanks (c :: rest) = c :: rest :=
    dropWhile_of_stops (stops_cons _ hc)
  simp [mark?, h]

/-- A number that fills its width is read whole, whatever follows. -/
theorem number?_padded {width n : Nat} (hw : 0 < width)
    (hn : n < 10 ^ width) :
    number? width ((padded width n).toList ++ rest) = some (n, rest) := by
  have htake : ((padded width n).toList ++ rest).take width =
      (padded width n).toList :=
    List.take_left' (length_padded hw hn)
  have hrun : (padded width n).toList.takeWhile isDigit =
      (padded width n).toList :=
    List.takeWhile_eq_self_iff.mpr fun _ h => isDigit_of_mem_padded h
  simp only [number?, skipBlanks_padded, htake, hrun, isEmpty_padded,
    ofDigits_padded, List.drop_left]
  rfl

/-- After a sign the digits of a year go on for as long as there are
any. -/
theorem year?_signed {n : Nat} (hrest : Stops isDigit rest) :
    year? ('-' :: (padded 4 n).toList ++ rest) = some (-(n : Int), rest)
      ∧ year? ('+' :: (padded 4 n).toList ++ rest) = some ((n : Int), rest) := by
  have hrun : ((padded 4 n).toList ++ rest).takeWhile isDigit =
      (padded 4 n).toList :=
    takeWhile_append_stop (fun _ h => isDigit_of_mem_padded h) hrest
  have hminus : ∀ cs, skipBlanks ('-' :: cs) = '-' :: cs := fun cs =>
    dropWhile_of_stops (stops_cons cs (by decide))
  have hplus : ∀ cs, skipBlanks ('+' :: cs) = '+' :: cs := fun cs =>
    dropWhile_of_stops (stops_cons cs (by decide))
  constructor
  · simp only [year?, List.cons_append, hminus, hrun, isEmpty_padded,
      ofDigits_padded, List.drop_left]
    rfl
  · simp only [year?, List.cons_append, hplus, hrun, isEmpty_padded,
      ofDigits_padded, List.drop_left]
    rfl

/-- A year of four digits is read without a sign. -/
theorem year?_plain {n : Nat} (hn : n < 10 ^ 4) :
    year? ((padded 4 n).toList ++ rest) = some ((n : Int), rest) := by
  obtain ⟨c, cs, hcs, hc⟩ := padded_eq_cons 4 n
  have hread : number? 4 ((padded 4 n).toList ++ rest) = some (n, rest) :=
    number?_padded (by omega) hn
  unfold year?
  rw [skipBlanks_padded]
  rw [hcs, List.cons_append] at hread ⊢
  split
  · rename_i heq
    rw [← (List.cons.inj heq).1.symm] at hc
    exact absurd hc (by decide)
  · rename_i heq
    rw [← (List.cons.inj heq).1.symm] at hc
    exact absurd hc (by decide)
  · rw [hread]
    rfl

/-- A year is read back from its text: four digits for the years 0 to 9999, and
with a sign otherwise. -/
theorem year?_yearText (year : Int) (hrest : Stops isDigit rest) :
    year? ((Date.yearText year).toList ++ rest) = some (year, rest) := by
  unfold Date.yearText
  split
  · rename_i h
    rw [year?_plain (show year.toNat < 10 ^ 4 by omega)]
    simp only [Option.some.injEq, Prod.mk.injEq, and_true]
    omega
  · by_cases hneg : year < 0
    · rw [if_pos hneg, String.toList_append]
      refine ((year?_signed (n := year.natAbs) hrest).1).trans ?_
      simp only [Option.some.injEq, Prod.mk.injEq, and_true]
      omega
    · rw [if_neg hneg, String.toList_append]
      refine ((year?_signed (n := year.natAbs) hrest).2).trans ?_
      simp only [Option.some.injEq, Prod.mk.injEq, and_true]
      omega

-- ============================================================ fraction

/-- The fraction of a second as it is written. -/
def fractionText (nano : Nat) : String :=
  if nano = 0 then ""
  else if nano % 1000000 = 0 then "." ++ padded 3 (nano / 1000000)
  else if nano % 1000 = 0 then "." ++ padded 6 (nano / 1000)
  else "." ++ padded 9 nano

/-- Places that are left out at the end come back as zeros. -/
theorem fraction?_padded {width n : Nat} (hw : 0 < width) (hle : width ≤ 9)
    (hn : n < 10 ^ width) :
    fraction? ("." ++ padded width n).toList =
      some (n * 10 ^ (9 - width), []) := by
  have hlen := length_padded hw hn
  have hrun : (padded width n).toList.takeWhile isDigit =
      (padded width n).toList :=
    List.takeWhile_eq_self_iff.mpr fun _ h => isDigit_of_mem_padded h
  have htake : (padded width n).toList.take 9 = (padded width n).toList :=
    List.take_of_length_le (by omega)
  rw [String.toList_append]
  show fraction? ('.' :: (padded width n).toList) = _
  simp only [fraction?, hrun, htake, hlen, isEmpty_padded, ofDigits_padded]
  rw [List.drop_of_length_le (by omega)]
  rfl

/-- A fraction is read back, whether it has three, six or nine digits or is
left out. -/
theorem fraction?_fractionText {nano : Nat} (h : nano < 1000000000) :
    fraction? (fractionText nano).toList = some (nano, []) := by
  unfold fractionText
  split
  · rename_i hzero
    rw [hzero]
    rfl
  · split
    · rw [fraction?_padded (by omega) (by omega) (by omega)]
      simp only [Option.some.injEq, Prod.mk.injEq, and_true]
      omega
    · split
      · rw [fraction?_padded (by omega) (by omega) (by omega)]
        simp only [Option.some.injEq, Prod.mk.injEq, and_true]
        omega
      · rw [fraction?_padded (by omega) (by omega) (by omega)]
        simp only [Option.some.injEq, Prod.mk.injEq, and_true]
        omega

-- ======================================================= the whole form

theorem toList_iso (t : DateTime) :
    t.iso.toList =
      (Date.yearText t.date.year).toList ++ '-' ::
      ((padded 2 t.date.month).toList ++ '-' ::
      ((padded 2 t.date.day).toList ++ 'T' ::
      ((padded 2 t.hour).toList ++ ':' ::
      ((padded 2 t.minute).toList ++ ':' ::
      ((padded 2 t.shownSecond).toList
        ++ (fractionText (t.nano % 1000000000)).toList))))) := by
  have h : t.iso = t.dateText ++ "T" ++ t.clockText
      ++ fractionText (t.nano % 1000000000) := rfl
  simp [h, dateText, clockText]

/-- The calendar has no month and no day of more than two places. -/
theorem month_day_lt (t : DateTime) :
    t.date.month < 10 ^ 2 ∧ t.date.day < 10 ^ 2 := by
  have hvalid := isValid_date t
  have hle := Date.daysInMonth_le t.date.year t.date.month
  simp only [Date.isValid, Bool.and_eq_true, decide_eq_true_eq] at hvalid
  omega

/-- A point in time is what its parts make up, if the clock has them. -/
theorem ofParts?_eq_some {t : DateTime} {date : Date}
    {hour minute second : Nat} (hvalid : date.isValid = true)
    (hday : date.toDayNumber = t.day) (hminute : minute < 60)
    (hsecond : second < 60) (hleap : 1000000000 ≤ t.nano → second = 59)
    (hclock : hour * 3600 + minute * 60 + second = t.second) :
    ofParts? date hour minute second t.nano = some t := by
  have hlt := t.second_lt
  have hnano := t.nano_lt
  unfold ofParts?
  rw [dif_pos (by omega), if_pos hvalid]
  simp only [hday, hclock]

-- ======================================================== leap seconds

/-- A leap second, if it is one, follows the last second of a minute. -/
def LeapEndsMinute (t : DateTime) : Prop :=
  1000000000 ≤ t.nano → t.secondOfMinute = 59

instance (t : DateTime) : Decidable t.LeapEndsMinute :=
  inferInstanceAs (Decidable (_ → _))

/-- The point in time that the written form shows: a leap second inside a
minute is written as the next second. -/
def shown (t : DateTime) : DateTime :=
  if h : 1000000000 ≤ t.nano ∧ t.secondOfMinute ≠ 59 then
    ⟨t.day, t.second + 1, t.nano - 1000000000,
      by have := t.second_lt; unfold secondOfMinute at h; omega,
      by have := t.nano_lt; omega⟩
  else t

/-- What is shown differs from the point in time only if that is a leap
second inside a minute. -/
theorem shown_eq_self_iff {t : DateTime} :
    t.shown = t ↔ t.LeapEndsMinute := by
  unfold shown LeapEndsMinute
  split
  · next h =>
    constructor
    · intro heq
      have hnano := congrArg nano heq
      dsimp only at hnano
      omega
    · intro hleap
      exact absurd (hleap h.1) h.2
  · next h =>
    exact ⟨fun _ hleap => Decidable.byContradiction fun hne =>
      h ⟨hleap, hne⟩, fun _ => rfl⟩

/-- What is shown is no leap second inside a minute any more. -/
theorem leapEndsMinute_shown (t : DateTime) : t.shown.LeapEndsMinute := by
  unfold shown
  split
  · next h =>
    intro hleap
    have hlt := t.nano_lt
    simp only at hleap
    omega
  · next h =>
    exact fun hleap => Decidable.byContradiction fun hne => h ⟨hleap, hne⟩

theorem date_shown (t : DateTime) : t.shown.date = t.date := by
  unfold shown
  split <;> rfl

/-- A point in time and what is shown of it have one written form. -/
theorem iso_shown (t : DateTime) : t.shown.iso = t.iso := by
  by_cases h : 1000000000 ≤ t.nano ∧ t.secondOfMinute ≠ 59
  · -- the second that the leap second is written as is in the same minute
    have hinside : t.second % 60 ≠ 59 := h.2
    have hlt := t.nano_lt
    have hsecond : t.shown.second = t.second + 1 := by
      unfold shown
      rw [dif_pos h]
    have hnano : t.shown.nano = t.nano - 1000000000 := by
      unfold shown
      rw [dif_pos h]
    have hhour : t.shown.hour = t.hour := by
      unfold hour
      omega
    have hminute : t.shown.minute = t.minute := by
      unfold minute
      omega
    have hshown : t.shown.shownSecond = t.shownSecond := by
      unfold shownSecond secondOfMinute
      omega
    have hfraction : t.shown.nano % 1000000000 = t.nano % 1000000000 := by
      omega
    simp only [iso, dateText, clockText, date_shown, hhour, hminute, hshown,
      hfraction]
  · unfold shown
    rw [dif_neg h]

-- ============================================================ reading

/-- The parts that are written make up the point in time. A second 60 is
the leap second after the last second of the minute. -/
theorem ofParts?_parts {t : DateTime} (hends : t.LeapEndsMinute) :
    (if t.shownSecond = 60 then
      ofParts? t.date t.hour t.minute 59
        (1000000000 + t.nano % 1000000000)
    else ofParts? t.date t.hour t.minute t.shownSecond
      (t.nano % 1000000000)) = some t := by
  have hnano := t.nano_lt
  have hday : t.date.toDayNumber = t.day := Date.toDayNumber_ofDayNumber _
  have hhour : t.hour = t.second / 3600 := rfl
  have hminute : t.minute = t.second / 60 % 60 := rfl
  have hshown : t.shownSecond = t.second % 60 + t.nano / 1000000000 := rfl
  by_cases h : 1000000000 ≤ t.nano
  · have h59 : t.second % 60 = 59 := hends h
    have hleap : 1000000000 + t.nano % 1000000000 = t.nano := by omega
    rw [if_pos (by omega), hleap]
    exact ofParts?_eq_some (isValid_date t) hday (by omega) (by omega)
      (by omega) (by omega)
  · have hsame : t.nano % 1000000000 = t.nano := by omega
    rw [if_neg (by omega), hsame]
    exact ofParts?_eq_some (isValid_date t) hday (by omega) (by omega)
      (by omega) (by omega)

/-- The readers of the fields, one behind the other, give the parts of the
point in time. -/
theorem ofIso?_of_leapEndsMinute {t : DateTime} (hends : t.LeapEndsMinute)
    (hmin : -262143 ≤ t.date.year) (hmax : t.date.year ≤ 262142) :
    ofIso? t.iso = some t := by
  obtain ⟨hmonth, hday⟩ := month_day_lt t
  have hhour : t.hour < 10 ^ 2 := by
    have := t.second_lt
    simp only [hour]
    omega
  have hminute : t.minute < 10 ^ 2 := by
    simp only [minute]
    omega
  have hsecond : t.shownSecond < 10 ^ 2 := by
    have := t.nano_lt
    simp only [shownSecond, secondOfMinute]
    omega
  have hdash : isBlank '-' = false := by decide
  have hcolon : isBlank ':' = false := by decide
  have htee : isBlank 'T' = false := by decide
  -- every field is padded to the width that its reader takes
  unfold ofIso?
  rw [toList_iso, year?_yearText _ (stops_cons _ rfl)]
  simp only [mark?_self hdash, mark?_self hcolon, mark?_self htee,
    number?_padded (by omega) hmonth, number?_padded (by omega) hday,
    number?_padded (by omega) hhour, number?_padded (by omega) hminute,
    number?_padded (by omega) hsecond,
    fraction?_fractionText (Nat.mod_lt _ (by omega)),
    Option.bind_eq_bind, Option.bind_some]
  rw [if_pos ⟨rfl, hmin, hmax⟩]
  exact ofParts?_parts hends

/-- The written form is read as the point in time that it shows. -/
theorem ofIso?_iso (t : DateTime) (hmin : -262143 ≤ t.date.year)
    (hmax : t.date.year ≤ 262142) : ofIso? t.iso = some t.shown := by
  rw [← date_shown] at hmin hmax
  rw [← iso_shown]
  exact ofIso?_of_leapEndsMinute (leapEndsMinute_shown t) hmin hmax

end DateTime

end FilterCriteria
