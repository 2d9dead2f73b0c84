/-
A time span is its ticks, and its text says which span it is. The layout of
the text is given here by its fields, digit by digit (`Fields.WrittenAs`). The
reader takes the fields apart and adds up their ticks, and it reads whatever
is laid out so; that the text of every span is makes the text an injective
name of it.

# The layout

A text has a sign if the span is negative, days if there are any, hours,
minutes and seconds of two digits each, and a fraction of seven digits if there
is one. The hours are below 24 and the minutes and seconds below 60, so no
part says what another one could. The span with the fewest ticks has no
positive counterpart in 64 bits; its size is computed without a sign, and so it
has a text like the others.

# Reading

Days and hours begin alike, with digits, and only the mark behind them tells
which they are (`magnitudeOfText?_shown`). A minus sign is no digit, so a text
without one begins with a digit (`head?_shown`). The main statement is
`text_lossless`.
-/
import FilterCriteria.Proofs.Number.Digits
import FilterCriteria.Time.Span

namespace FilterCriteria.TimeSpan

-- =============================================================== ticks

/-- A number of ticks is a span exactly if it fits. -/
theorem ofTicks?_eq_some_iff {n : Int} {s : TimeSpan} :
    ofTicks? n = some s ↔ s.ticks.toInt = n := by
  unfold ofTicks?
  rw [Option.map_eq_some_iff]
  constructor
  · intro h
    obtain ⟨k, hk, rfl⟩ := h
    exact int64?_eq_some_iff.mp hk
  · intro h
    exact ⟨s.ticks, int64?_eq_some_iff.mpr h, rfl⟩

theorem ofTicks?_toInt (t : TimeSpan) : ofTicks? t.ticks.toInt = some t :=
  ofTicks?_eq_some_iff.mpr rfl

/-- The two parts of a span make up all of its ticks, of either sign. -/
theorem nanoseconds_eq (s : TimeSpan) :
    s.nanoseconds = s.ticks.toInt * 100 := by
  have hsplit := Int.mul_tdiv_add_tmod s.ticks.toInt 10
  unfold nanoseconds
  omega

-- ========================================================== the reader

/-- A number in front, and what follows its digits. -/
def leadingNumber (cs : List Char) : Nat × List Char :=
  (ofDigits (cs.takeWhile isDigit), cs.dropWhile isDigit)

/-- Reads `.fffffff`, as ticks; where it is left out there are none. -/
def fractionTicks : List Char → Nat
  | '.' :: cs => (leadingNumber cs).1
  | _ => 0

/-- Reads `:mm:ss[.fffffff]`, as ticks. -/
def minutesOfText? : List Char → Option Nat
  | ':' :: cs =>
    match leadingNumber cs with
    | (minutes, ':' :: cs) =>
      let (seconds, cs) := leadingNumber cs
      some (minutes * 600000000 + seconds * 10000000 + fractionTicks cs)
    | _ => none
  | _ => none

/-- Reads a span without its sign, as ticks. -/
def magnitudeOfText? (cs : List Char) : Option Nat :=
  match leadingNumber cs with
  | (days, '.' :: cs) =>
    let (hours, cs) := leadingNumber cs
    (minutesOfText? cs).map
      (days * 864000000000 + hours * 36000000000 + ·)
  | (hours, cs) => (minutesOfText? cs).map (hours * 36000000000 + ·)

/-- Reads the text of a span. -/
def ofText? : List Char → Option TimeSpan
  | '-' :: cs => magnitudeOfText? cs >>= fun n => ofTicks? (-n)
  | cs => magnitudeOfText? cs >>= fun n => ofTicks? n

-- ========================================================== the layout

/-- So many decimal digits, and the number that they stand for. -/
def Numeral (width : Nat) (ds : List Char) (n : Nat) : Prop :=
  ds.length = width ∧ (∀ c ∈ ds, isDigit c = true) ∧ ofDigits ds = n

/-- The days with the full stop behind them. They show exactly when there are
any, with no zero in front. -/
inductive ShowsDays : Nat → List Char → Prop
  | omitted : ShowsDays 0 []
  | shown {n : Nat} {ds : List Char} (hpos : 0 < n)
      (hds : Numeral ds.length ds n) (hlead : ds.head? ≠ some '0') :
      ShowsDays n (ds ++ ['.'])

/-- The fraction of a second in ticks, behind a full stop. It shows exactly
when it is not zero, and then in all of its seven places. -/
inductive ShowsFraction : Nat → List Char → Prop
  | omitted : ShowsFraction 0 []
  | shown {n : Nat} {ds : List Char} (hpos : 0 < n) (hds : Numeral 7 ds n) :
      ShowsFraction n ('.' :: ds)

/-- The fields of the text of a span. -/
structure Fields where
  negative : Bool
  days : Nat
  hours : Nat
  minutes : Nat
  seconds : Nat
  /-- The ticks beyond the whole seconds. -/
  fraction : Nat
  hours_lt : hours < 24
  minutes_lt : minutes < 60
  seconds_lt : seconds < 60

namespace Fields

/-- The ticks that the fields add up to, with their sign. -/
def ticks (f : Fields) : Int :=
  (if f.negative then -1 else 1)
    * (f.days * 864000000000 + f.hours * 36000000000 + f.minutes * 600000000
      + f.seconds * 10000000 + f.fraction)

/-- The text is `[-][d.]hh:mm:ss[.fffffff]` with these fields. -/
def WrittenAs (f : Fields) (text : List Char) : Prop :=
  ∃ days hours minutes seconds fraction : List Char,
    text = (if f.negative then ['-'] else [])
      ++ (days ++ (hours ++ ':' :: (minutes ++ ':' :: (seconds ++ fraction))))
    ∧ ShowsDays f.days days ∧ Numeral 2 hours f.hours
    ∧ Numeral 2 minutes f.minutes ∧ Numeral 2 seconds f.seconds
    ∧ ShowsFraction f.fraction fraction

end Fields

-- ============================================================= writing

theorem hours_lt (n : Nat) : n % 864000000000 / 36000000000 < 24 := by
  omega

theorem sixtieth_lt (n : Nat) : n % 60 < 60 := by
  omega

/-- The fields of a span: its days, and what is left of the last one. -/
def fields (t : TimeSpan) : Fields where
  negative := t.ticks < 0
  days := t.ticks.toInt.natAbs / 864000000000
  hours := t.ticks.toInt.natAbs % 864000000000 / 36000000000
  minutes := t.ticks.toInt.natAbs % 864000000000 / 600000000 % 60
  seconds := t.ticks.toInt.natAbs % 864000000000 / 10000000 % 60
  fraction := t.ticks.toInt.natAbs % 864000000000 % 10000000
  hours_lt := hours_lt _
  minutes_lt := sixtieth_lt _
  seconds_lt := sixtieth_lt _

/-- The fields of a span add up to its ticks. -/
theorem ticks_fields (t : TimeSpan) : t.fields.ticks = t.ticks.toInt := by
  have hsign : t.ticks < 0 ↔ t.ticks.toInt < 0 := Int64.lt_iff_toInt_lt
  unfold Fields.ticks fields
  by_cases h : t.ticks < 0
  · have hneg := hsign.mp h
    simp only [h, decide_true, if_true]
    omega
  · have hpos := mt hsign.mpr h
    simp only [h, decide_false, Bool.false_eq_true, if_false]
    omega

/-- A number that is no longer than its width is filled up to it. -/
theorem numeral_padded {width n : Nat} (hw : 0 < width) (h : n < 10 ^ width) :
    Numeral width (padded width n).toList n :=
  ⟨length_padded hw h, fun _ hc => isDigit_of_mem_padded hc,
    ofDigits_padded width n⟩

/-- Days are written if there are any, with a point behind them. -/
theorem showsDays_text (n : Nat) :
    ShowsDays n (if 0 < n then padded 0 n ++ "." else "").toList := by
  by_cases h : 0 < n
  · rw [if_pos h, String.toList_append]
    refine .shown h ⟨rfl, fun _ hc => isDigit_of_mem_padded hc,
      ofDigits_padded 0 n⟩ ?_
    intro hlead
    rw [toList_padded, Nat.zero_sub, List.replicate_zero, List.nil_append]
      at hlead
    obtain ⟨ds, hds⟩ := List.head?_eq_some_iff.mp hlead
    have hn := ofDigits_decimalDigits n
    rw [hds, decimalDigits_no_leading_zero hds] at hn
    exact absurd hn (Nat.ne_of_lt h)
  · rw [if_neg h, Nat.eq_zero_of_not_pos h]
    exact .omitted

/-- A fraction is written if there is one, with all its seven digits. -/
theorem showsFraction_text {n : Nat} (hn : n < 10000000) :
    ShowsFraction n (if 0 < n then "." ++ padded 7 n else "").toList := by
  by_cases h : 0 < n
  · rw [if_pos h, String.toList_append]
    exact .shown h (numeral_padded (by decide) hn)
  · rw [if_neg h, Nat.eq_zero_of_not_pos h]
    exact .omitted

/-- The text of a span is laid out by its fields. -/
theorem writtenAs_text (t : TimeSpan) :
    t.fields.WrittenAs t.text.toList := by
  have hhours := t.fields.hours_lt
  have hminutes := t.fields.minutes_lt
  have hseconds := t.fields.seconds_lt
  refine ⟨_, _, _, _, _, ?_, showsDays_text _,
    numeral_padded (by decide) (by omega),
    numeral_padded (by decide) (by omega),
    numeral_padded (by decide) (by omega),
    showsFraction_text (Nat.mod_lt _ (by decide))⟩
  by_cases h : t.ticks < 0
  · simp [text, fields, h]
  · simp [text, fields, h]

-- ======================================================== reading back

/-- A number is read up to the next mark. -/
theorem leadingNumber_numeral {width n : Nat} {ds rest : List Char}
    (hds : Numeral width ds n) (hrest : Stops isDigit rest) :
    leadingNumber (ds ++ rest) = (n, rest) := by
  obtain ⟨-, hdigits, hvalue⟩ := hds
  rw [leadingNumber, takeWhile_append_stop hdigits hrest,
    dropWhile_append_stop hdigits hrest, hvalue]

theorem ShowsFraction.stops {n : Nat} {cs : List Char}
    (h : ShowsFraction n cs) : Stops isDigit cs := by
  cases h with
  | omitted => exact stops_nil
  | shown => exact stops_cons _ (by decide)

/-- A fraction is read as its ticks, and none as no ticks. -/
theorem ShowsFraction.fractionTicks {n : Nat} {cs : List Char}
    (h : ShowsFraction n cs) : fractionTicks cs = n := by
  cases h with
  | omitted => rfl
  | @shown n ds hpos hds =>
      have hread := leadingNumber_numeral hds (stops_nil (p := isDigit))
      rw [List.append_nil] at hread
      rw [TimeSpan.fractionTicks, hread]

/-- Minutes, seconds and the fraction are read as their ticks. -/
theorem minutesOfText?_shown {minutes seconds fraction : Nat}
    {ms ss fs : List Char} (hminutes : Numeral 2 ms minutes)
    (hseconds : Numeral 2 ss seconds) (hfraction : ShowsFraction fraction fs) :
    minutesOfText? (':' :: (ms ++ ':' :: (ss ++ fs)))
      = some (minutes * 600000000 + seconds * 10000000 + fraction) := by
  have hm : leadingNumber (ms ++ ':' :: (ss ++ fs))
      = (minutes, ':' :: (ss ++ fs)) :=
    leadingNumber_numeral hminutes (stops_cons _ (by decide))
  have hs := leadingNumber_numeral hseconds hfraction.stops
  simp only [minutesOfText?, hm, hs, hfraction.fractionTicks]

/-- What is written without its sign reads as the sum of the fields. -/
theorem magnitudeOfText?_shown {days hours minutes seconds fraction : Nat}
    {ds hs ms ss fs : List Char} (hdays : ShowsDays days ds)
    (hhours : Numeral 2 hs hours) (hminutes : Numeral 2 ms minutes)
    (hseconds : Numeral 2 ss seconds) (hfraction : ShowsFraction fraction fs) :
    magnitudeOfText? (ds ++ (hs ++ ':' :: (ms ++ ':' :: (ss ++ fs))))
      = some (days * 864000000000 + hours * 36000000000
        + minutes * 600000000 + seconds * 10000000 + fraction) := by
  have hread := minutesOfText?_shown hminutes hseconds hfraction
  have hh : leadingNumber (hs ++ ':' :: (ms ++ ':' :: (ss ++ fs)))
      = (hours, ':' :: (ms ++ ':' :: (ss ++ fs))) :=
    leadingNumber_numeral hhours (stops_cons _ (by decide))
  cases hdays with
  | omitted =>
      rw [List.nil_append]
      unfold magnitudeOfText?
      rw [hh]
      show (minutesOfText? (':' :: (ms ++ ':' :: (ss ++ fs)))).map _ = _
      rw [hread, Option.map_some, Option.some.injEq]
      omega
  | @shown _ ds hpos hds hlead =>
      have hd : leadingNumber
          (ds ++ '.' :: (hs ++ ':' :: (ms ++ ':' :: (ss ++ fs))))
          = (days, '.' :: (hs ++ ':' :: (ms ++ ':' :: (ss ++ fs)))) :=
        leadingNumber_numeral hds (stops_cons _ (by decide))
      rw [List.append_assoc, List.singleton_append]
      simp only [magnitudeOfText?, hd, hh, hread, Option.map_some,
        Option.some.injEq]
      omega

/-- A text without a sign begins with a digit. -/
theorem head?_shown {days hours : Nat} {ds hs : List Char}
    (rest : List Char) (hdays : ShowsDays days ds)
    (hhours : Numeral 2 hs hours) :
    ∀ c ∈ (ds ++ (hs ++ rest)).head?, isDigit c = true := by
  intro c hc
  cases hdays with
  | omitted =>
      obtain ⟨hlength, hdigits, -⟩ := hhours
      cases hs with
      | nil => cases hlength
      | cons h hs =>
          obtain rfl : h = c := Option.some.inj hc
          exact hdigits h (.head _)
  | @shown _ ds hpos hds hlead =>
      obtain ⟨-, hdigits, hvalue⟩ := hds
      cases ds with
      | nil => exact absurd hvalue (Nat.ne_of_lt hpos)
      | cons d ds =>
          obtain rfl : d = c := Option.some.inj hc
          exact hdigits d (.head _)

/-- What is laid out so is read as the sum of its fields, with its sign. -/
theorem ofText?_of_writtenAs {f : Fields} {cs : List Char}
    (h : f.WrittenAs cs) : ofText? cs = ofTicks? f.ticks := by
  obtain ⟨ds, hs, ms, ss, fs, rfl, hdays, hhours, hminutes, hseconds,
    hfraction⟩ := h
  have hread :=
    magnitudeOfText?_shown hdays hhours hminutes hseconds hfraction
  unfold Fields.ticks
  cases f.negative with
  | true =>
      rw [if_pos rfl, List.singleton_append, ofText?, hread,
        Option.bind_eq_bind, Option.bind_some, if_pos rfl, Int.neg_one_mul]
      simp only [Int.natCast_add, Int.natCast_mul]
      rfl
  | false =>
      rw [if_neg (by decide), List.nil_append, if_neg (by decide), Int.one_mul]
      unfold ofText?
      split
      · next heq =>
        have hdigit :=
          head?_shown (':' :: (ms ++ ':' :: (ss ++ fs))) hdays hhours
        rw [heq] at hdigit
        exact absurd (hdigit '-' rfl) (by decide)
      · rw [hread, Option.bind_eq_bind, Option.bind_some]
        simp only [Int.natCast_add, Int.natCast_mul]
        rfl

/-- The text of a span is read as the span. -/
theorem ofText?_text (t : TimeSpan) : ofText? t.text.toList = some t := by
  rw [ofText?_of_writtenAs t.writtenAs_text, ticks_fields, ofTicks?_toInt]

theorem Numeral.hash_not_mem {width n : Nat} {ds : List Char}
    (h : Numeral width ds n) : '#' ∉ ds :=
  fun hc => absurd (h.2.1 _ hc) (by decide)

theorem ShowsDays.hash_not_mem {n : Nat} {cs : List Char}
    (h : ShowsDays n cs) : '#' ∉ cs := by
  cases h with
  | omitted => simp
  | shown _ hds => simp [hds.hash_not_mem]

theorem ShowsFraction.hash_not_mem {n : Nat} {cs : List Char}
    (h : ShowsFraction n cs) : '#' ∉ cs := by
  cases h with
  | omitted => simp
  | shown _ hds => simp [hds.hash_not_mem]

/-- The text of a span can stand between number signs. -/
theorem hash_not_mem_text (t : TimeSpan) : '#' ∉ t.text.toList := by
  obtain ⟨ds, hs, ms, ss, fs, htext, hdays, hhours, hminutes, hseconds,
    hfraction⟩ := t.writtenAs_text
  rw [htext]
  split <;> simp [hdays.hash_not_mem, hhours.hash_not_mem,
    hminutes.hash_not_mem, hseconds.hash_not_mem, hfraction.hash_not_mem]

-- ======================================================= nothing is lost

/-- The text of a span shows its fields, and nothing but its ticks can be read
from it: whatever fields the text is written with, they add up to the ticks of
the span, so that no two spans share a text. -/
theorem text_lossless (t : TimeSpan) :
    (∃ f : Fields, f.WrittenAs t.text.toList
      ∧ (f.negative = true ↔ t.ticks < 0) ∧ f.ticks = t.ticks.toInt)
    ∧ (∀ f : Fields, f.WrittenAs t.text.toList → f.ticks = t.ticks.toInt)
    ∧ ∀ u : TimeSpan, u.text = t.text → u = t := by
  refine ⟨⟨t.fields, t.writtenAs_text, ?_, t.ticks_fields⟩, ?_, ?_⟩
  · exact decide_eq_true_iff
  · intro f hf
    have hread := ofText?_of_writtenAs hf
    rw [ofText?_text] at hread
    exact (ofTicks?_eq_some_iff.mp hread.symm).symm
  · intro u hu
    have hread := ofText?_text u
    rw [hu, ofText?_text] at hread
    exact (Option.some.inj hread).symm

/-- The two ends of the range, of which the lower one has no span without a
sign; and an hour, which has no other reading than its ticks. -/
theorem text_lossless_ends :
    (∃ f : Fields, f.WrittenAs "-10675199.02:48:05.4775808".toList
      ∧ (f.negative = true ↔ minValue.ticks < 0) ∧ f.ticks = -2 ^ 63)
    ∧ (∃ f : Fields, f.WrittenAs "10675199.02:48:05.4775807".toList
      ∧ (f.negative = true ↔ maxValue.ticks < 0) ∧ f.ticks = 2 ^ 63 - 1)
    ∧ ∃ f : Fields, f.WrittenAs "01:00:00".toList ∧ f.ticks = 36000000000 := by
  obtain ⟨hmin, -⟩ := text_lossless minValue
  obtain ⟨hmax, -⟩ := text_lossless maxValue
  obtain ⟨⟨f, hf, -⟩, hread, -⟩ := text_lossless ⟨36000000000⟩
  exact ⟨hmin, hmax, f, hf, hread f hf⟩

end FilterCriteria.TimeSpan
