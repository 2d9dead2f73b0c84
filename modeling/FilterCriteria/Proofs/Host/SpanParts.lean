/-
Time spans out of their parts, and the parts that they read as. The five parts
of a span are added up with a check after every step, so that the sum is made
exactly when nothing on the way leaves the 64 bits; parts of one sign never do
where their total does not. The parts of a span are of one sign, which is why
they always make a span again.

# Sums

What is checked are the five amounts in ticks and the sums of the first two,
three, four and five (`FitThroughout`). That is more than the total, and
`constructSpan_refuses_inRange` has parts of different signs whose total fits
and which are refused for a sum on the way. With one sign, each sum lies
between zero and the total (`fitThroughout_of_oneSign`).

# Parts

The parts are quotients and remainders by units that divide one another, cut
toward zero, so that each carries on where the one before has stopped
(`part_carries_on`); added up they are the span but for what is finer than a
millisecond (`sum_amounts_parts`).
-/
import Mathlib.Algebra.Order.Ring.Abs
import Mathlib.Tactic.Linarith
import Mathlib.Tactic.LinearCombination
import Mathlib.Tactic.Ring
import Mathlib.Tactic.Tauto
import FilterCriteria.Host.Span
import FilterCriteria.Proofs.Time.Span

namespace FilterCriteria

namespace TimeSpan

-- ================================================================ sums

/-- The number fits 64 bits. -/
def Fits (n : Int) : Prop :=
  -2 ^ 63 ≤ n ∧ n < 2 ^ 63

instance (n : Int) : Decidable (Fits n) :=
  inferInstanceAs (Decidable (_ ∧ _))

/-- The ticks of each of the five parts. -/
def amounts (days hours minutes seconds milliseconds : Int) : List Int :=
  [days * ticksPerDay, hours * ticksPerHour, minutes * ticksPerMinute,
    seconds * ticksPerSecond, milliseconds * ticksPerMillisecond]

/-- Every amount fits, and so does every sum on the way to the total. -/
def FitThroughout (amounts : List Int) : Prop :=
  (∀ n ∈ amounts, Fits n) ∧ ∀ n ∈ amounts.scanl (· + ·) 0, Fits n

instance (amounts : List Int) : Decidable (FitThroughout amounts) :=
  inferInstanceAs (Decidable (_ ∧ _))

/-- No two of the numbers are of opposite signs. -/
def OneSign (parts : List Int) : Prop :=
  (∀ n ∈ parts, 0 ≤ n) ∨ ∀ n ∈ parts, n ≤ 0

instance (parts : List Int) : Decidable (OneSign parts) :=
  inferInstanceAs (Decidable (_ ∨ _))

/-- What fits is what a span can have for its ticks. -/
theorem fits_iff {n : Int} : Fits n ↔ ∃ t : TimeSpan, t.ticks.toInt = n := by
  constructor
  · intro h
    obtain ⟨k, hk⟩ := exists_toInt_eq h.1 h.2
    exact ⟨⟨k⟩, hk⟩
  · intro h
    obtain ⟨t, rfl⟩ := h
    exact ⟨t.ticks.le_toInt, t.ticks.toInt_lt⟩

/-- Five amounts have four sums, from the first two on. -/
theorem fitThroughout_iff {a b c d e : Int} :
    FitThroughout [a, b, c, d, e]
      ↔ (Fits a ∧ Fits b ∧ Fits c ∧ Fits d ∧ Fits e) ∧ Fits (a + b)
        ∧ Fits (a + b + c) ∧ Fits (a + b + c + d)
        ∧ Fits (a + b + c + d + e) := by
  have hzero : Fits 0 := by decide
  simp only [FitThroughout, List.scanl_cons, List.scanl_nil,
    List.forall_mem_cons, List.not_mem_nil, false_imp_iff, implies_true,
    and_true, zero_add, hzero, true_and]
  tauto

variable {days hours minutes seconds milliseconds : Int}

/-- The checks let through exactly what fits all the way, and they leave it as
it is. -/
theorem ofParts?_eq_some_iff {t : TimeSpan} :
    ofParts? days hours minutes seconds milliseconds = some t
      ↔ FitThroughout (amounts days hours minutes seconds milliseconds)
        ∧ t.ticks.toInt
          = (amounts days hours minutes seconds milliseconds).sum := by
  unfold ofParts? amounts
  simp only [Option.bind_eq_bind, Option.bind_eq_some_iff,
    ofTicks?_eq_some_iff, fitThroughout_iff, List.sum_cons, List.sum_nil]
  constructor
  · intro hmade
    obtain ⟨d, hd, h, hh, m, hm, s, hs, l, hl, dh, hdh, dm, hdm, ds, hds, ht⟩ :=
      hmade
    -- each partial sum is rewritten by the one before it
    rw [hd, hh] at hdh
    rw [hdh, hm] at hdm
    rw [hdm, hs] at hds
    rw [hds, hl] at ht
    refine ⟨⟨⟨fits_iff.mpr ⟨d, hd⟩, fits_iff.mpr ⟨h, hh⟩, fits_iff.mpr ⟨m, hm⟩,
      fits_iff.mpr ⟨s, hs⟩, fits_iff.mpr ⟨l, hl⟩⟩, fits_iff.mpr ⟨dh, hdh⟩,
      fits_iff.mpr ⟨dm, hdm⟩, fits_iff.mpr ⟨ds, hds⟩, fits_iff.mpr ⟨t, ht⟩⟩,
      ?_⟩
    rw [ht]
    ring
  · intro hfit
    obtain ⟨⟨⟨hd, hh, hm, hs, hl⟩, hdh, hdm, hds, -⟩, ht⟩ := hfit
    obtain ⟨d, hd⟩ := fits_iff.mp hd
    obtain ⟨h, hh⟩ := fits_iff.mp hh
    obtain ⟨m, hm⟩ := fits_iff.mp hm
    obtain ⟨s, hs⟩ := fits_iff.mp hs
    obtain ⟨l, hl⟩ := fits_iff.mp hl
    obtain ⟨dh, hdh⟩ := fits_iff.mp hdh
    obtain ⟨dm, hdm⟩ := fits_iff.mp hdm
    obtain ⟨ds, hds⟩ := fits_iff.mp hds
    refine ⟨d, hd, h, hh, m, hm, s, hs, l, hl, dh, ?_, dm, ?_, ds, ?_, ?_⟩
    · rw [hdh, hd, hh]
    · rw [hdm, hdh, hm]
    · rw [hds, hdm, hs]
    · rw [ht, hds, hl]
      ring

/-- Amounts of one sign only grow on their way to the total. -/
theorem fitThroughout_of_oneSign
    (hsign : OneSign [days, hours, minutes, seconds, milliseconds])
    (h : Fits (amounts days hours minutes seconds milliseconds).sum) :
    FitThroughout (amounts days hours minutes seconds milliseconds) := by
  simp only [OneSign, List.forall_mem_cons, List.not_mem_nil, false_imp_iff,
    implies_true, and_true] at hsign
  simp only [amounts, List.sum_cons, List.sum_nil] at h
  rw [amounts, fitThroughout_iff]
  unfold Fits ticksPerDay ticksPerHour ticksPerMinute ticksPerSecond
    ticksPerMillisecond at *
  omega

/-- The total of parts of one sign is made exactly when it fits. -/
theorem ofParts?_eq_some_of_oneSign {t : TimeSpan}
    (hsign : OneSign [days, hours, minutes, seconds, milliseconds]) :
    ofParts? days hours minutes seconds milliseconds = some t
      ↔ t.ticks.toInt
        = (amounts days hours minutes seconds milliseconds).sum := by
  rw [ofParts?_eq_some_iff, and_iff_right_iff_imp]
  intro ht
  exact fitThroughout_of_oneSign hsign (fits_iff.mpr ⟨t, ht⟩)

/-- The last sum on the way is the total. -/
theorem fits_sum_of_fitThroughout
    (h : FitThroughout (amounts days hours minutes seconds milliseconds)) :
    Fits (amounts days hours minutes seconds milliseconds).sum := by
  rw [amounts, fitThroughout_iff] at h
  simpa only [amounts, List.sum_cons, List.sum_nil, add_zero, add_assoc]
    using h.2.2.2.2

/-- An optional span that is there on a condition, with so many ticks. -/
theorem map_ticks_eq {made : Option TimeSpan} {p : Prop} [Decidable p]
    {n : Int} (hfits : p → Fits n)
    (h : ∀ t, made = some t ↔ p ∧ t.ticks.toInt = n) :
    made.map (fun t => t.ticks.toInt) = if p then some n else none := by
  by_cases hp : p
  · obtain ⟨t, ht⟩ := fits_iff.mp (hfits hp)
    rw [if_pos hp, (h t).mpr ⟨hp, ht⟩, Option.map_some, ht]
  · rw [if_neg hp, Option.map_eq_none_iff, Option.eq_none_iff_forall_not_mem]
    intro t ht
    exact hp ((h t).mp ht).1

/-- What a span is made of decides whether it is made: all five amounts and
the four sums of them have to fit, and it has then exactly their total. Where
the parts are of one sign, the total alone decides. -/
theorem ofParts?_total (days hours minutes seconds milliseconds : Int) :
    let amounts := amounts days hours minutes seconds milliseconds
    let made := (ofParts? days hours minutes seconds milliseconds).map
      fun t => t.ticks.toInt
    made = (if FitThroughout amounts then some amounts.sum else none)
    ∧ (OneSign [days, hours, minutes, seconds, milliseconds] →
      made = if Fits amounts.sum then some amounts.sum else none) := by
  constructor
  · exact map_ticks_eq fits_sum_of_fitThroughout
      fun t => ofParts?_eq_some_iff
  · intro hsign
    refine map_ticks_eq id fun t => ?_
    rw [ofParts?_eq_some_of_oneSign hsign, iff_and_self]
    intro ht
    exact fits_iff.mpr ⟨t, ht⟩

/-- The greatest whole number of days is made; one more day by itself is not,
and neither is it with its hours taken off again. -/
theorem ofParts?_total_lastDay :
    (ofParts? 10675199 0 0 0 0).map (fun t => t.ticks.toInt)
        = some 9223371936000000000
      ∧ (ofParts? 10675200 0 0 0 0).map (fun t => t.ticks.toInt) = none
      ∧ (ofParts? 10675200 (-24) 0 0 0).map (fun t => t.ticks.toInt) = none :=
  ⟨(ofParts?_total 10675199 0 0 0 0).2 (by decide),
    (ofParts?_total 10675200 0 0 0 0).2 (by decide),
    (ofParts?_total 10675200 (-24) 0 0 0).1⟩

end TimeSpan

namespace Host

open TimeSpan

/-- The last day that fits, written as the day after it less its hours, is
refused as too long. Written as itself it is a span. -/
theorem constructSpan_refuses_inRange :
    Fits (amounts 10675200 (-24) 0 0 0).sum
      ∧ (amounts 10675200 (-24) 0 0 0).sum = (amounts 10675199 0 0 0 0).sum
      ∧ ofParts? 10675200 (-24) 0 0 0 = none
      ∧ constructSpan [.long 10675200, .long (-24), .long 0, .long 0, .long 0]
        = .error (.failed .spanTooLong)
      ∧ constructSpan [.long 10675199, .long 0, .long 0, .long 0, .long 0]
        = .ok (.timeSpan ⟨9223371936000000000⟩) := by
  refine ⟨by decide, by decide, by decide, rfl, rfl⟩

-- =============================================================== parts

/-- The parts of a span, as exact numbers. -/
def spanParts (t : TimeSpan) : List Int :=
  [t.days, t.hours, t.minutes, t.seconds, t.milliseconds]

/-- A part carries on where the next larger unit leaves off. -/
theorem part_carries_on (t : TimeSpan) (unit count : Int)
    (hunit : 0 ≤ unit) :
    t.ticks.toInt.tdiv (unit * count) * (unit * count)
        + t.part unit count * unit
      = t.ticks.toInt.tdiv unit * unit := by
  have hsplit := Int.tdiv_mul_add_tmod (t.ticks.toInt.tdiv unit) count
  rw [← tdiv_tdiv _ _ hunit]
  unfold part
  linear_combination unit * hsplit

/-- The parts of a span make up its whole milliseconds. -/
theorem sum_amounts_parts (t : TimeSpan) :
    (amounts t.days t.hours t.minutes t.seconds t.milliseconds).sum
      = t.ticks.toInt.tdiv ticksPerMillisecond * ticksPerMillisecond := by
  have hhours : t.days * ticksPerDay + t.hours * ticksPerHour
      = t.ticks.toInt.tdiv ticksPerHour * ticksPerHour :=
    part_carries_on t ticksPerHour 24 (by decide)
  have hminutes : t.ticks.toInt.tdiv ticksPerHour * ticksPerHour
        + t.minutes * ticksPerMinute
      = t.ticks.toInt.tdiv ticksPerMinute * ticksPerMinute :=
    part_carries_on t ticksPerMinute 60 (by decide)
  have hseconds : t.ticks.toInt.tdiv ticksPerMinute * ticksPerMinute
        + t.seconds * ticksPerSecond
      = t.ticks.toInt.tdiv ticksPerSecond * ticksPerSecond :=
    part_carries_on t ticksPerSecond 60 (by decide)
  have hmilliseconds : t.ticks.toInt.tdiv ticksPerSecond * ticksPerSecond
        + t.milliseconds * ticksPerMillisecond
      = t.ticks.toInt.tdiv ticksPerMillisecond * ticksPerMillisecond :=
    part_carries_on t ticksPerMillisecond 1000 (by decide)
  simp only [amounts, List.sum_cons, List.sum_nil]
  linarith

theorem sign_tdiv_of_pos (n : Int) {d : Int} (hd : 0 < d) :
    n.tdiv d = 0 ∨ (n.tdiv d).sign = n.sign := by
  have hsign := Int.sign_tdiv n d
  split at hsign
  · exact .inl (Int.sign_eq_zero_iff_zero.mp hsign)
  · rw [Int.sign_eq_one_of_pos hd, mul_one] at hsign
    exact .inr hsign

/-- A part is zero or has the sign of the span, since division goes toward
zero. -/
theorem sign_part (t : TimeSpan) {unit : Int} (count : Int)
    (hunit : 0 < unit) :
    t.part unit count = 0 ∨ (t.part unit count).sign = t.ticks.toInt.sign := by
  have hsign := Int.sign_tmod (t.ticks.toInt.tdiv unit) count
  unfold part
  split at hsign
  · exact .inl (Int.sign_eq_zero_iff_zero.mp hsign)
  · rcases sign_tdiv_of_pos t.ticks.toInt hunit with hzero | hdiv
    · exact .inl (by rw [hzero, Int.zero_tmod])
    · exact .inr (hsign.trans hdiv)

/-- The parts have the sign of the span, as far as they are not zero. -/
theorem sign_spanParts (t : TimeSpan) :
    ∀ n ∈ spanParts t, n = 0 ∨ n.sign = t.ticks.toInt.sign := by
  simp only [spanParts, List.forall_mem_cons, List.not_mem_nil, false_imp_iff,
    implies_true, and_true]
  exact ⟨sign_tdiv_of_pos _ (by decide), sign_part t 24 (by decide),
    sign_part t 60 (by decide), sign_part t 60 (by decide),
    sign_part t 1000 (by decide)⟩

/-- The parts of a span are of one sign. -/
theorem oneSign_spanParts (t : TimeSpan) : OneSign (spanParts t) := by
  have hsign := sign_spanParts t
  rcases Int.le_total 0 t.ticks.toInt with ht | ht
  · left
    intro n hn
    rcases hsign n hn with hzero | hn
    · exact Int.le_of_eq hzero.symm
    · exact Int.sign_nonneg_iff.mp (hn ▸ Int.sign_nonneg_iff.mpr ht)
  · right
    intro n hn
    rcases hsign n hn with hzero | hn
    · exact Int.le_of_eq hzero
    · exact Int.sign_nonpos_iff.mp (hn ▸ Int.sign_nonpos_iff.mpr ht)

theorem abs_part_lt (t : TimeSpan) (unit : Int) {count : Int}
    (hcount : 0 < count) : |t.part unit count| < count :=
  abs_lt.mpr ⟨Int.lt_tmod_of_pos _ hcount, Int.tmod_lt_of_pos _ hcount⟩

theorem abs_parts_lt (t : TimeSpan) :
    |t.hours| < 24 ∧ |t.minutes| < 60 ∧ |t.seconds| < 60
      ∧ |t.milliseconds| < 1000 :=
  ⟨abs_part_lt t _ (by decide), abs_part_lt t _ (by decide),
    abs_part_lt t _ (by decide), abs_part_lt t _ (by decide)⟩

/-- A span of 64 bits has no more days than this. -/
theorem abs_days_le (t : TimeSpan) : |t.days| ≤ 10675199 := by
  have hmin := t.ticks.le_toInt
  have hmax := t.ticks.toInt_lt
  have hdiv := tdiv_cases t.ticks.toInt ticksPerDay
  rw [abs_le]
  unfold days
  unfold ticksPerDay at *
  omega

/-- The parts of a span make a span again, since they are of one sign. -/
theorem exists_ofParts?_parts (t : TimeSpan) :
    ∃ r, ofParts? t.days t.hours t.minutes t.seconds t.milliseconds = some r
      ∧ r.ticks.toInt = t.ticks.toInt.tdiv 10000 * 10000 := by
  have hfits : Fits (t.ticks.toInt.tdiv 10000 * 10000) := by
    have hmin := t.ticks.le_toInt
    have hmax := t.ticks.toInt_lt
    have hdiv := tdiv_cases t.ticks.toInt 10000
    unfold Fits
    omega
  obtain ⟨r, hr⟩ := fits_iff.mp hfits
  refine ⟨r, ?_, hr⟩
  rw [ofParts?_eq_some_of_oneSign (oneSign_spanParts t), sum_amounts_parts]
  exact hr

-- ============================================================= reading

/-- The members that make up a span, to milliseconds. -/
def spanPartNames : List String :=
  ["Days", "Hours", "Minutes", "Seconds", "Milliseconds"]

theorem mapM_readSpan (t : TimeSpan) :
    spanPartNames.mapM (readSpan t)
      = pure ((spanParts t).map fun n => .int (Int32.ofInt n)) := by
  rfl

/-- Every part of a span fits 32 bits by far. -/
theorem toInt_spanParts (t : TimeSpan) :
    ∀ n ∈ spanParts t, (Int32.ofInt n).toInt = n := by
  have hdays := abs_days_le t
  obtain ⟨hhours, hminutes, hseconds, hms⟩ := abs_parts_lt t
  rw [abs_le] at hdays
  rw [abs_lt] at hhours hminutes hseconds hms
  intro n hn
  have hfits : -10675199 ≤ n ∧ n ≤ 10675199 := by
    simp only [spanParts, List.mem_cons, List.not_mem_nil, or_false] at hn
    omega
  exact Int32.toInt_ofInt_of_le (by omega) (by omega)

/-- The host makes a span of five parts by adding them up with a check after
every step. -/
theorem constructSpan_int (days hours minutes seconds milliseconds : Int32) :
    constructSpan [.int days, .int hours, .int minutes, .int seconds,
        .int milliseconds]
      = spanOrFail (ofParts? days.toInt hours.toInt minutes.toInt
        seconds.toInt milliseconds.toInt) := by
  show spanOrFail (ofParts? days.toInt64.toInt hours.toInt64.toInt
    minutes.toInt64.toInt seconds.toInt64.toInt milliseconds.toInt64.toInt) = _
  simp only [Int32.toInt_toInt64]

/-- A span reads as five numbers that are exactly its parts: none beyond the
count of its unit, and none of a sign that the span does not have. They make a
span again, which is the first one cut to whole milliseconds. -/
theorem constructSpan_readSpan (t : TimeSpan) :
    ∃ days hours minutes seconds milliseconds : Int32,
      spanPartNames.mapM (readSpan t) = .ok [.int days, .int hours,
        .int minutes, .int seconds, .int milliseconds]
      ∧ [days, hours, minutes, seconds, milliseconds].map Int32.toInt
        = spanParts t
      ∧ (∀ n ∈ spanParts t, n = 0 ∨ n.sign = t.ticks.toInt.sign)
      ∧ |hours.toInt| < 24 ∧ |minutes.toInt| < 60 ∧ |seconds.toInt| < 60
      ∧ |milliseconds.toInt| < 1000
      ∧ ∃ r, constructSpan [.int days, .int hours, .int minutes, .int seconds,
          .int milliseconds] = .ok (.timeSpan r)
        ∧ r.ticks.toInt = t.ticks.toInt.tdiv 10000 * 10000 := by
  have hexact := toInt_spanParts t
  simp only [spanParts, List.forall_mem_cons, List.not_mem_nil, false_imp_iff,
    implies_true, and_true] at hexact
  obtain ⟨hdays, hhours, hminutes, hseconds, hms⟩ := hexact
  obtain ⟨hhours_lt, hminutes_lt, hseconds_lt, hms_lt⟩ := abs_parts_lt t
  obtain ⟨r, hmade, hr⟩ := exists_ofParts?_parts t
  refine ⟨Int32.ofInt t.days, Int32.ofInt t.hours, Int32.ofInt t.minutes,
    Int32.ofInt t.seconds, Int32.ofInt t.milliseconds, mapM_readSpan t, ?_,
    sign_spanParts t, ?_, ?_, ?_, ?_, r, ?_, hr⟩
  · simp only [List.map_cons, List.map_nil, spanParts, hdays, hhours, hminutes,
      hseconds, hms]
  · rwa [hhours]
  · rwa [hminutes]
  · rwa [hseconds]
  · rwa [hms]
  · rw [constructSpan_int, hdays, hhours, hminutes, hseconds, hms, hmade]
    rfl

example :
    spanParts .minValue = [-10675199, -2, -48, -5, -477] := by
  decide

end Host

end FilterCriteria
