/-
Points in time out of their parts, and the parts that they read as. The host
makes a point in time exactly of what the calendar and the clock have, each of
the seven parts within its own bounds, and it reads the parts back as they
were given; what a point in time reads as makes it again, less what is
finer than a millisecond.

# Bounds

The bounds are those of the calendar in the years 1 to 9999 (`CalendarHas`)
and of a clock to milliseconds (`ClockHas`), as conditions on exact integers.
The host gets there by narrower steps: a part is first made a number without
a sign, and the date and the time are checked one after the other, so a date
that there is not is reported before a time that there is not.

# Both ways

That the parts of a point in time determine it, to the millisecond, is a fact
about its day number and its second (`eq_of_parts_eq`). What is read has 32
bits and what is asked for 64, and all parts fit into either (`fits_of_has`).
The main statement is `constructDate_readDate`.
-/
import FilterCriteria.Proofs.Host.DateArithmetic
import FilterCriteria.Proofs.Time.DayNumber
import FilterCriteria.Proofs.Time.Iso

namespace FilterCriteria

/-- A point in time has the parts it is made of, and no other has them. A
leap second can only be made at the end of a minute. -/
theorem DateTime.ofParts?_eq_some_iff {date : Date}
    {hour minute second nano : Nat} {r : DateTime} :
    ofParts? date hour minute second nano = some r
      ↔ (date.isValid = true ∧ r.LeapEndsMinute) ∧ r.date = date
        ∧ r.hour = hour ∧ r.minute = minute ∧ r.secondOfMinute = second
        ∧ r.nano = nano := by
  constructor
  · intro h
    unfold ofParts? at h
    split at h
    · next hclock =>
      split at h
      · next hvalid =>
        cases h
        have hsecond : (hour * 3600 + minute * 60 + second) % 60 = second := by
          omega
        refine ⟨⟨hvalid, fun hleap => hsecond.trans (hclock.2.2.2.2 hleap)⟩,
          date_eq hvalid rfl, ?_, ?_, hsecond, rfl⟩
        · show (hour * 3600 + minute * 60 + second) / 3600 = hour
          omega
        · show (hour * 3600 + minute * 60 + second) / 60 % 60 = minute
          omega
      · cases h
    · cases h
  · intro h
    obtain ⟨⟨hvalid, hends⟩, rfl, rfl, rfl, rfl, rfl⟩ := h
    refine ofParts?_eq_some hvalid r.toDayNumber_date ?_ ?_ hends ?_
    · unfold DateTime.minute
      omega
    · unfold secondOfMinute
      omega
    · unfold hour minute secondOfMinute
      omega

namespace Host

-- ======================================================== construction

/-- The calendar has this day, in the years 1 to 9999. -/
def CalendarHas (year month day : Int) : Prop :=
  (1 ≤ year ∧ year ≤ 9999) ∧ (1 ≤ month ∧ month ≤ 12)
    ∧ 1 ≤ day ∧ day ≤ daysInMonth year month.toNat

/-- The clock has this time, to milliseconds. -/
def ClockHas (hour minute second millisecond : Int) : Prop :=
  (0 ≤ hour ∧ hour < 24) ∧ (0 ≤ minute ∧ minute < 60)
    ∧ (0 ≤ second ∧ second < 60) ∧ 0 ≤ millisecond ∧ millisecond ≤ 999

instance (year month day : Int) : Decidable (CalendarHas year month day) :=
  inferInstanceAs (Decidable (_ ∧ _))

instance (hour minute second millisecond : Int) :
    Decidable (ClockHas hour minute second millisecond) :=
  inferInstanceAs (Decidable (_ ∧ _))

/-- A part has to be a number of 32 bits without a sign. -/
theorem unsigned?_eq_some_iff {n : Int} {k : Nat} :
    unsigned? n = some k ↔ n = k ∧ k < 4294967296 := by
  unfold unsigned?
  rw [Option.ite_none_right_eq_some, Option.some.injEq]
  omega

theorem unsigned?_eq_toNat {n : Int} (hmin : 0 ≤ n) (hmax : n < 4294967296) :
    unsigned? n = some n.toNat :=
  unsigned?_eq_some_iff.mpr (by omega)

variable {year month day hour minute second millisecond : Int}

/-- What the calendar has is a valid date. -/
theorem isValid_of_calendarHas (h : CalendarHas year month day) :
    Date.isValid ⟨year, month.toNat, day.toNat⟩ = true := by
  obtain ⟨-, hmonth, hday⟩ := h
  rw [Date.isValid_iff]
  dsimp only
  omega

/-- The host makes every date that the calendar has. -/
theorem dateOfParts_of_calendarHas (h : CalendarHas year month day) :
    dateOfParts year month day = .ok ⟨year, month.toNat, day.toNat⟩ := by
  have hvalid := isValid_of_calendarHas h
  obtain ⟨hyear, hmonth, hday⟩ := h
  have hlength := Date.daysInMonth_le year month.toNat
  have hm := unsigned?_eq_toNat (n := month) (by omega) (by omega)
  have hd := unsigned?_eq_toNat (n := day) (by omega) (by omega)
  unfold dateOfParts
  rw [if_pos hyear, hm, hd]
  show (if Date.isValid ⟨year, month.toNat, day.toNat⟩ = true then _
    else _) = _
  rw [if_pos hvalid]

/-- The host makes no date that the calendar has not, whichever part is out of
its bounds. -/
theorem dateOfParts_of_not_calendarHas (h : ¬ CalendarHas year month day) :
    dateOfParts year month day = .error (.failed .invalidDate) := by
  unfold dateOfParts
  by_cases hyear : 1 ≤ year ∧ year ≤ 9999
  · rw [if_pos hyear]
    cases hm : unsigned? month with
    | none => rfl
    | some m =>
        cases hd : unsigned? day with
        | none => rfl
        | some d =>
            obtain ⟨rfl, -⟩ := unsigned?_eq_some_iff.mp hm
            obtain ⟨rfl, -⟩ := unsigned?_eq_some_iff.mp hd
            have hvalid : ¬ Date.isValid ⟨year, m, d⟩ = true := by
              unfold CalendarHas at h
              rw [Int.toNat_natCast] at h
              rw [Date.isValid_iff]
              dsimp only
              omega
            show (if Date.isValid ⟨year, m, d⟩ = true then _ else _) = _
            rw [if_neg hvalid]
  · rw [if_neg hyear]

/-- A time of the clock makes a point in time on the date, with these parts. -/
theorem withTime_of_clockHas {date : Date} (hvalid : date.isValid = true)
    (h : ClockHas hour minute second millisecond) :
    ∃ r, withTime date hour minute second millisecond = .ok (.dateTime r)
      ∧ r.date = date ∧ r.hour = hour.toNat ∧ r.minute = minute.toNat
      ∧ r.secondOfMinute = second.toNat
      ∧ r.nano = millisecond.toNat * 1000000 := by
  obtain ⟨hhour, hminute, hsecond, hms⟩ := h
  have hh := unsigned?_eq_toNat hhour.1 (by omega)
  have hm := unsigned?_eq_toNat hminute.1 (by omega)
  have hs := unsigned?_eq_toNat hsecond.1 (by omega)
  have hl := unsigned?_eq_toNat hms.1 (by omega)
  obtain ⟨r, hr⟩ : ∃ r, DateTime.ofParts? date hour.toNat minute.toNat
      second.toNat (millisecond.toNat * 1000000) = some r := by
    unfold DateTime.ofParts?
    rw [dif_pos (by omega), if_pos hvalid]
    exact ⟨_, rfl⟩
  refine ⟨r, ?_, (DateTime.ofParts?_eq_some_iff.mp hr).2⟩
  unfold withTime
  rw [hh, hm, hs, hl]
  show (if 999 < millisecond.toNat then _ else _) = _
  rw [if_neg (by omega), hr]
  rfl

/-- A time that the clock has not makes none. -/
theorem withTime_of_not_clockHas (date : Date)
    (h : ¬ ClockHas hour minute second millisecond) :
    withTime date hour minute second millisecond
      = .error (.failed .invalidTime) := by
  unfold withTime
  cases hh : unsigned? hour with
  | none => rfl
  | some hour' =>
  cases hm : unsigned? minute with
  | none => rfl
  | some minute' =>
  cases hs : unsigned? second with
  | none => rfl
  | some second' =>
  cases hl : unsigned? millisecond with
  | none => rfl
  | some millisecond' =>
      obtain ⟨rfl, -⟩ := unsigned?_eq_some_iff.mp hh
      obtain ⟨rfl, -⟩ := unsigned?_eq_some_iff.mp hm
      obtain ⟨rfl, -⟩ := unsigned?_eq_some_iff.mp hs
      obtain ⟨rfl, -⟩ := unsigned?_eq_some_iff.mp hl
      -- without this check a thousand and more could be in a leap second
      show (if 999 < millisecond' then _ else _) = _
      by_cases hlarge : 999 < millisecond'
      · rw [if_pos hlarge]
      · have hnone : DateTime.ofParts? date hour' minute' second'
            (millisecond' * 1000000) = none := by
          unfold ClockHas at h
          unfold DateTime.ofParts?
          rw [dif_neg (by omega)]
        rw [if_neg hlarge, hnone]
        rfl

/-- The length of a month, from its first day to that of the next one, is
that of the calendar. -/
theorem callDateType_daysInMonth (zone : Zone) {y m : Int64}
    (hyear : 1 ≤ y.toInt ∧ y.toInt ≤ 9999)
    (hmonth : 1 ≤ m.toInt ∧ m.toInt ≤ 12) :
    callDateType zone "DaysInMonth" [.long y, .long m]
      = .ok (.int (Int32.ofNat (daysInMonth y.toInt m.toInt.toNat))) := by
  have hcount : 1 ≤ m.toInt.toNat ∧ m.toInt.toNat ≤ 12 := by omega
  have hlength := daysInMonth_pos y.toInt hcount.1 hcount.2
  have hdays := Date.toDayNumber_nextMonth y.toInt hcount.1 hcount.2
  have hfirst : dateOfParts y.toInt m.toInt 1
      = .ok ⟨y.toInt, m.toInt.toNat, 1⟩ :=
    dateOfParts_of_calendarHas ⟨hyear, hmonth, by omega, by omega⟩
  show (dateOfParts y.toInt m.toInt 1 >>= fun first =>
    pure (Value.int (Int32.ofInt
      ((first.addMonths 1).toDayNumber - first.toDayNumber)))) = _
  rw [hfirst]
  show Except.ok (Value.int (Int32.ofInt _)) = _
  rw [hdays]
  rfl

-- =============================================================== parts

/-- The seven parts of a point in time, as exact numbers. -/
def parts (t : DateTime) : List Int :=
  [t.date.year, t.date.month, t.date.day, t.hour, t.minute, t.secondOfMinute,
    t.nano / 1000000]

/-- A date and a time that there are make a point in time with these parts. -/
theorem exists_withTime (hdate : CalendarHas year month day)
    (htime : ClockHas hour minute second millisecond) :
    ∃ r, (dateOfParts year month day >>= fun date =>
        withTime date hour minute second millisecond) = .ok (.dateTime r)
      ∧ parts r = [year, month, day, hour, minute, second, millisecond]
      ∧ r.nano % 1000000 = 0 := by
  obtain ⟨r, hr, hrdate, hrhour, hrminute, hrsecond, hrnano⟩ :=
    withTime_of_clockHas (isValid_of_calendarHas hdate) htime
  have hmake := dateOfParts_of_calendarHas hdate
  obtain ⟨-, hmonth, hday⟩ := hdate
  obtain ⟨hhour, hminute, hsecond, hms⟩ := htime
  refine ⟨r, ?_, ?_, by omega⟩
  · rw [hmake]
    exact hr
  · simp only [parts, hrdate, hrhour, hrminute, hrsecond, hrnano,
      List.cons.injEq, and_true, true_and]
    omega

variable {t r : DateTime}

/-- An ordinary point in time has parts that there are. -/
theorem calendarHas_date (ht : t.Ordinary) :
    CalendarHas t.date.year t.date.month t.date.day := by
  have hyear := DateTime.year_of_inRange ht.inRange
  have hvalid := t.isValid_date
  rw [Date.isValid_iff] at hvalid
  unfold CalendarHas
  rw [Int.toNat_natCast]
  omega

theorem clockHas_time (ht : t.Ordinary) :
    ClockHas t.hour t.minute t.secondOfMinute (t.nano / 1000000) := by
  have hsecond := t.second_lt
  have hnano := ht.nano_lt
  unfold ClockHas DateTime.hour DateTime.minute DateTime.secondOfMinute
  omega

/-- The parts tell a point in time to milliseconds. -/
theorem eq_of_parts_eq (h : parts r = parts t) (hr : r.nano % 1000000 = 0) :
    r.day = t.day ∧ r.second = t.second
      ∧ r.nano = t.nano / 1000000 * 1000000 := by
  simp only [parts, List.cons.injEq, and_true] at h
  obtain ⟨hyear, hmonth, hday, hhour, hminute, hsecond, hms⟩ := h
  have hdate : r.date = t.date := by
    cases hd : r.date
    cases hd' : t.date
    simp only [hd, hd'] at hyear hmonth hday
    rw [hyear, Int.ofNat_inj.mp hmonth, Int.ofNat_inj.mp hday]
  refine ⟨?_, ?_, by omega⟩
  · rw [← r.toDayNumber_date, ← t.toDayNumber_date, hdate]
  · unfold DateTime.hour at hhour
    unfold DateTime.minute at hminute
    unfold DateTime.secondOfMinute at hsecond
    omega

-- ============================================================= reading

/-- The members that make up a point in time, to milliseconds. -/
def partNames : List String :=
  ["Year", "Month", "Day", "Hour", "Minute", "Second", "Millisecond"]

/-- The whole number that a member reads as. -/
def part? (t : DateTime) (name : String) : Option Int64 :=
  (readDate t name).toOption >>= Value.toInt?

theorem mapM_readDate (t : DateTime) :
    partNames.mapM (readDate t)
      = pure ((parts t).map fun n => .int (Int32.ofInt n)) := by
  rfl

theorem mapM_part? (t : DateTime) :
    partNames.mapM (part? t)
      = some ((parts t).map fun n => (Int32.ofInt n).toInt64) := by
  rfl

/-- Parts that there are fit 32 bits by far. -/
theorem fits_of_has (hdate : CalendarHas year month day)
    (htime : ClockHas hour minute second millisecond) :
    ∀ n ∈ [year, month, day, hour, minute, second, millisecond],
      (Int32.ofInt n).toInt64.toInt = n := by
  have hlength := Date.daysInMonth_le year month.toNat
  unfold CalendarHas at hdate
  unfold ClockHas at htime
  intro n hn
  have hfits : 0 ≤ n ∧ n ≤ 9999 := by
    simp only [List.mem_cons, List.not_mem_nil, or_false] at hn
    omega
  rw [Int32.toInt_toInt64]
  exact Int32.toInt_ofInt_of_le (by omega) (by omega)

/-- Parts that fit into 32 bits read as the numbers they are. -/
theorem mapM_part?_eq_some {numbers : List Int64}
    (h : parts t = numbers.map Int64.toInt)
    (hfits : ∀ n ∈ parts t, (Int32.ofInt n).toInt64.toInt = n) :
    partNames.mapM (part? t) = some numbers := by
  have hself : ∀ k ∈ numbers, (Int32.ofInt k.toInt).toInt64 = k := by
    intro k hk
    have hmem : k.toInt ∈ parts t := by
      rw [h]
      exact List.mem_map_of_mem hk
    exact Int64.toInt_inj.mp (hfits _ hmem)
  rw [mapM_part?, h, List.map_map]
  exact congrArg some ((List.map_congr_left hself).trans (List.map_id _))

/-- Making a point in time of numbers that were read is making it of the
numbers themselves. -/
theorem constructDate_int
    (hfits : ∀ n ∈ [year, month, day, hour, minute, second, millisecond],
      (Int32.ofInt n).toInt64.toInt = n) :
    constructDate ([year, month, day, hour, minute, second, millisecond].map
        fun n => .int (Int32.ofInt n))
      = dateOfParts year month day >>= fun date =>
        withTime date hour minute second millisecond := by
  simp only [List.forall_mem_cons] at hfits
  obtain ⟨hyear, hmonth, hday, hhour, hminute, hsecond, hms, -⟩ := hfits
  show (dateOfParts (Int32.ofInt year).toInt64.toInt
      (Int32.ofInt month).toInt64.toInt (Int32.ofInt day).toInt64.toInt
    >>= fun date => withTime date (Int32.ofInt hour).toInt64.toInt
      (Int32.ofInt minute).toInt64.toInt (Int32.ofInt second).toInt64.toInt
      (Int32.ofInt millisecond).toInt64.toInt) = _
  rw [hyear, hmonth, hday, hhour, hminute, hsecond, hms]

/-- Seven numbers are a date and a time of day, to the millisecond. -/
theorem constructDate_long (y mo d h mi s ms : Int64) :
    constructDate [.long y, .long mo, .long d, .long h, .long mi, .long s,
        .long ms]
      = dateOfParts y.toInt mo.toInt d.toInt >>= fun date =>
        withTime date h.toInt mi.toInt s.toInt ms.toInt := by
  rfl

/-- The start of the day and the time since then make up a point in time on a
whole tick. -/
theorem add?_timeOfDay (ht : t.Ordinary) (haligned : t.TickAligned) :
    t.midnight.add? ⟨ticksOrZero (t.midnight.spanBetween? t)⟩ = some t := by
  have hmidnight : t.midnight.Ordinary :=
    ⟨DateTime.inRange_midnight ht.inRange, Nat.zero_lt_succ _⟩
  obtain ⟨s, hs, -⟩ := DateTime.exists_spanBetween? hmidnight ht
  rw [hs]
  exact DateTime.add?_of_spanBetween? ht hmidnight haligned rfl hs

-- =========================================================== both ways

/-- Making a point in time and reading its parts are inverse to each other.
Seven numbers make one exactly when the calendar and the clock have them, where
months are as long as `DaysInMonth` says, and it reads as these numbers. The
parts that an ordinary point in time reads as make it again, cut to
milliseconds; and its date and time of day add up to it, to the tick. -/
theorem constructDate_readDate (zone : Zone) :
    (∀ y mo d h mi s ms : Int64,
      let made := constructDate
        [.long y, .long mo, .long d, .long h, .long mi, .long s, .long ms]
      let hasDate := CalendarHas y.toInt mo.toInt d.toInt
      let hasTime := ClockHas h.toInt mi.toInt s.toInt ms.toInt
      (hasDate → hasTime → ∃ r, made = .ok (.dateTime r)
        ∧ partNames.mapM (part? r) = some [y, mo, d, h, mi, s, ms])
      ∧ (¬ hasDate → made = .error (.failed .invalidDate))
      ∧ (hasDate → ¬ hasTime → made = .error (.failed .invalidTime))
      ∧ (1 ≤ y.toInt ∧ y.toInt ≤ 9999 → 1 ≤ mo.toInt ∧ mo.toInt ≤ 12 →
        callDateType zone "DaysInMonth" [.long y, .long mo]
          = .ok (.int (Int32.ofNat (daysInMonth y.toInt mo.toInt.toNat)))))
    ∧ ∀ t : DateTime, t.Ordinary →
      (∃ r, (partNames.mapM (readDate t) >>= constructDate)
          = .ok (.dateTime r)
        ∧ r.day = t.day ∧ r.second = t.second
        ∧ r.nano = t.nano / 1000000 * 1000000)
      ∧ (t.TickAligned → ∃ day time,
        readDate t "Date" = .ok (.dateTime day)
        ∧ readDate t "TimeOfDay" = .ok (.timeSpan time)
        ∧ callDate day "Add" [.timeSpan time] = .ok (.dateTime t)) := by
  constructor
  · intro y mo d h mi s ms
    dsimp only
    rw [constructDate_long]
    refine ⟨?_, ?_, ?_, callDateType_daysInMonth zone⟩
    · intro hdate htime
      obtain ⟨r, hr, hparts, -⟩ := exists_withTime hdate htime
      refine ⟨r, hr, mapM_part?_eq_some hparts ?_⟩
      rw [hparts]
      exact fits_of_has hdate htime
    · intro hdate
      rw [dateOfParts_of_not_calendarHas hdate]
      rfl
    · intro hdate htime
      rw [dateOfParts_of_calendarHas hdate]
      exact withTime_of_not_clockHas _ htime
  · intro t ht
    constructor
    · have hdate := calendarHas_date ht
      have htime := clockHas_time ht
      obtain ⟨r, hr, hparts, hcut⟩ := exists_withTime hdate htime
      refine ⟨r, ?_, eq_of_parts_eq hparts hcut⟩
      rw [mapM_readDate, pure_bind, parts,
        constructDate_int (fits_of_has hdate htime)]
      exact hr
    · intro haligned
      refine ⟨t.midnight, ⟨ticksOrZero (t.midnight.spanBetween? t)⟩, rfl, rfl,
        ?_⟩
      rw [callDate_add, dateOrFail_eq_ok]
      exact add?_timeOfDay ht haligned

/-- A leap day with nanoseconds, which are cut off; a day that its year does
not have, and a second that no minute has. -/
theorem constructDate_readDate_leapDay :
    ∃ t r, DateTime.ofParts? ⟨2024, 2, 29⟩ 23 59 30 123456789 = some t
      ∧ DateTime.ofParts? ⟨2024, 2, 29⟩ 23 59 30 123000000 = some r
      ∧ (partNames.mapM (readDate t) >>= constructDate) = .ok (.dateTime r)
      ∧ (∃ r, constructDate [.long 2024, .long 2, .long 29, .long 23, .long 59,
          .long 59, .long 999] = .ok (.dateTime r)
        ∧ partNames.mapM (part? r) = some [2024, 2, 29, 23, 59, 59, 999])
      ∧ constructDate [.long 1900, .long 2, .long 29, .long 0, .long 0, .long 0,
          .long 0] = .error (.failed .invalidDate)
      ∧ constructDate [.long 2024, .long 2, .long 29, .long 23, .long 59,
          .long 60, .long 0] = .error (.failed .invalidTime)
      ∧ ∃ day time, readDate .maxValue "Date" = .ok (.dateTime day)
        ∧ readDate .maxValue "TimeOfDay" = .ok (.timeSpan time)
        ∧ callDate day "Add" [.timeSpan time] = .ok (.dateTime .maxValue) := by
  let t : DateTime :=
    ⟨738944, 86370, 123456789, by decide, by decide⟩
  have ht : t.Ordinary := ⟨by decide, by decide⟩
  have hleap : CalendarHas 2024 2 29 := by decide
  obtain ⟨hmake, hread⟩ := constructDate_readDate .utc
  obtain ⟨⟨r, hr, hday, hsecond, hnano⟩, -⟩ := hread t ht
  obtain ⟨hmade, -⟩ := hmake 2024 2 29 23 59 59 999
  obtain ⟨-, hcommon, -⟩ := hmake 1900 2 29 0 0 0 0
  obtain ⟨-, -, hclock, -⟩ := hmake 2024 2 29 23 59 60 0
  have hcut : DateTime.ofParts? ⟨2024, 2, 29⟩ 23 59 30 r.nano = some r := by
    refine DateTime.ofParts?_eq_some (by decide) ?_ (by decide) (by decide)
      ?_ ?_
    · rw [hday]
      rfl
    · rw [hnano]
      decide
    · rw [hsecond]
  rw [show r.nano = 123456789 / 1000000 * 1000000 from hnano] at hcut
  exact ⟨t, r, by decide +kernel, hcut, hr, hmade hleap (by decide),
    hcommon (by decide), hclock hleap (by decide),
    (hread _ DateTime.ordinary_maxValue).2 rfl⟩

end Host

end FilterCriteria
