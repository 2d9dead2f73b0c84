/-
Points in time on one line. Outside of leap seconds a point in time is a
number of nanoseconds since the start of the year 1 (`nanos`), and on that
line all that computations do is arithmetic of exact integers: the order is
that of the numbers, a span moves a point by its nanoseconds, and the span
between two points is their difference, cut to ticks toward zero. The checks
for 64 bits on the way never decide anything by themselves.

# Two units

Points in time are kept to the nanosecond and spans to the tick, a hundred of
them. Adding a span is exact; a distance is not, unless both points are on
whole ticks (`TickAligned`). The host computes a distance in microseconds and
what is left over, each cut toward zero, and `micros_between` says that this
is the same as cutting the nanoseconds once.

# Laws

The laws at the end are those of integers carried over: adding a span is
undone by taking it away (`add?_undo`), two spans are added as their sum
(`add?_add?`), and distances change their sign with the order
(`spanBetween?_swap`).
-/
import FilterCriteria.Proofs.Time.Range
import FilterCriteria.Proofs.Time.Span

namespace FilterCriteria

namespace DateTime

-- ============================================================ the line

/-- The nanoseconds since the start of the year 1, where leap seconds do not
count. -/
def nanos (t : DateTime) : Int :=
  (t.day * 86400 + t.second) * 1000000000 + t.nano

/-- In reach of computations, and not in a leap second. -/
structure Ordinary (t : DateTime) : Prop where
  inRange : t.inRange = true
  nano_lt : t.nano < 1000000000

/-- On a whole tick. -/
def TickAligned (t : DateTime) : Prop :=
  t.nano % 100 = 0

variable {t a b r : DateTime}

theorem nanos_minValue : minValue.nanos = 0 := rfl

theorem nanos_maxValue : maxValue.nanos = 315537897599999999900 := rfl

/-- A point on the line is one point in time. -/
theorem eq_of_nanos_eq (ha : a.nano < 1000000000) (hb : b.nano < 1000000000)
    (h : a.nanos = b.nanos) : a = b := by
  have hsa := a.second_lt
  have hsb := b.second_lt
  unfold nanos at h
  have hday : a.day = b.day := by omega
  have hsecond : a.second = b.second := by omega
  have hnano : a.nano = b.nano := by omega
  cases a
  cases b
  simp only at hday hsecond hnano
  subst hday hsecond hnano
  rfl

/-- The order of points in time is that of the line. -/
theorem noLater_iff (ha : a.nano < 1000000000) (hb : b.nano < 1000000000) :
    a.noLater b = true ↔ a.nanos ≤ b.nanos := by
  have hsa := a.second_lt
  have hsb := b.second_lt
  simp only [noLater, Bool.or_eq_true, Bool.and_eq_true, decide_eq_true_eq,
    beq_iff_eq]
  unfold nanos
  omega

/-- Being in range is being between the ends of the line. -/
theorem ordinary_iff :
    t.Ordinary ↔ t.nano < 1000000000 ∧ 0 ≤ t.nanos
      ∧ t.nanos ≤ maxValue.nanos := by
  constructor
  · intro h
    have hrange := h.inRange
    simp only [inRange, Bool.and_eq_true] at hrange
    refine ⟨h.nano_lt, ?_, ?_⟩
    · exact (noLater_iff (by decide) h.nano_lt).mp hrange.1
    · exact (noLater_iff h.nano_lt (by decide)).mp hrange.2
  · intro h
    obtain ⟨hnano, hmin, hmax⟩ := h
    refine ⟨?_, hnano⟩
    simp only [inRange, Bool.and_eq_true]
    constructor
    · exact (noLater_iff (by decide) hnano).mpr hmin
    · exact (noLater_iff hnano (by decide)).mpr hmax

theorem Ordinary.nanos_bounds (h : t.Ordinary) :
    0 ≤ t.nanos ∧ t.nanos ≤ 315537897599999999900 :=
  (ordinary_iff.mp h).2

theorem ordinary_minValue : minValue.Ordinary :=
  ⟨by decide, by decide⟩

theorem ordinary_maxValue : maxValue.Ordinary :=
  ⟨by decide, by decide⟩

/-- A day and a second have a whole number of ticks. -/
theorem tickAligned_iff : t.TickAligned ↔ t.nanos % 100 = 0 := by
  unfold TickAligned nanos
  omega

-- ============================================================== adding

/-- Seconds may run over the day, on either side. -/
theorem nanos_atSecond (day seconds : Int) (nano : Nat)
    (h : nano < 1000000000) :
    (atSecond day seconds nano h).nanos
      = (day * 86400 + seconds) * 1000000000 + nano := by
  unfold nanos atSecond
  dsimp only
  omega

/-- Seconds and nanoseconds are added apart, and a carry of either sign goes
from the one to the other. -/
theorem nanos_add (h : t.nano < 1000000000) (s : TimeSpan) :
    (t.add s).nanos = t.nanos + s.ticks.toInt * 100
      ∧ (t.add s).nano < 1000000000 := by
  have hsplit := Int.mul_tdiv_add_tmod s.nanoseconds 1000000000
  have hspan := s.nanoseconds_eq
  have hleap : ¬ 1000000000 ≤ t.nano := by omega
  -- the cases of `add` that stay in a leap second or leave one do not arise
  unfold add
  rw [dif_neg (fun hin => hleap hin.1)]
  simp only [hleap, decide_false, Bool.false_and, Bool.false_eq_true,
    if_false, nanos_atSecond]
  constructor
  · unfold nanos
    omega
  · unfold atSecond
    dsimp only
    omega

/-- Adding a span gives the one point in time that is so far away, if it is
in reach. -/
theorem add?_eq_some_iff (h : t.nano < 1000000000) {s : TimeSpan} :
    t.add? s = some r
      ↔ r.Ordinary ∧ r.nanos = t.nanos + s.ticks.toInt * 100 := by
  obtain ⟨hnanos, hnano⟩ := nanos_add h s
  simp only [add?, Option.ite_none_right_eq_some, Option.some.injEq]
  constructor
  · intro hadd
    obtain ⟨hrange, rfl⟩ := hadd
    exact ⟨⟨hrange, hnano⟩, hnanos⟩
  · intro hr
    obtain ⟨hord, hr⟩ := hr
    have heq : t.add s = r :=
      eq_of_nanos_eq hnano hord.nano_lt (hnanos.trans hr.symm)
    rw [heq]
    exact ⟨hord.inRange, rfl⟩

/-- A point that is off the line is none. -/
theorem add?_eq_none (h : t.nano < 1000000000) {s : TimeSpan}
    (hout : ¬ (0 ≤ t.nanos + s.ticks.toInt * 100
      ∧ t.nanos + s.ticks.toInt * 100 ≤ 315537897599999999900)) :
    t.add? s = none := by
  cases hadd : t.add? s with
  | none => rfl
  | some r =>
      obtain ⟨hord, hr⟩ := (add?_eq_some_iff h).mp hadd
      rw [← hr] at hout
      exact absurd hord.nanos_bounds hout

/-- A sum fails only when it leaves the range. -/
theorem exists_add? (h : t.nano < 1000000000) {s : TimeSpan}
    (hmin : 0 ≤ t.nanos + s.ticks.toInt * 100)
    (hmax : t.nanos + s.ticks.toInt * 100 ≤ 315537897599999999900) :
    ∃ r, t.add? s = some r ∧ r.Ordinary
      ∧ r.nanos = t.nanos + s.ticks.toInt * 100 := by
  obtain ⟨hnanos, hnano⟩ := nanos_add h s
  have hord : (t.add s).Ordinary := by
    rw [ordinary_iff, hnanos, nanos_maxValue]
    exact ⟨hnano, hmin, hmax⟩
  exact ⟨t.add s, (add?_eq_some_iff h).mpr ⟨hord, hnanos⟩, hord, hnanos⟩

-- ============================================================= between

/-- The distance is the difference on the line. -/
theorem nanosBetween_eq (ha : a.nano < 1000000000)
    (hb : b.nano < 1000000000) : nanosBetween a b = b.nanos - a.nanos := by
  have hna : ¬ 1000000000 ≤ a.nano := by omega
  have hnb : ¬ 1000000000 ≤ b.nano := by omega
  simp only [nanosBetween, nanos, hna, hnb, and_false, if_false]
  omega

/-- Ticks out of whole microseconds and of what is left over are those of the
whole, since both parts are cut toward zero. -/
theorem ticks_of_micros (n : Int) :
    n.tdiv 1000 * 10 + (n.tmod 1000).tdiv 100 = n.tdiv 100 := by
  have hmicros := tdiv_cases n 1000
  have hrest := tdiv_cases (n.tmod 1000) 100
  have hticks := tdiv_cases n 100
  omega

/-- The ticks of the whole microseconds are no farther from zero. -/
theorem micros_between (n : Int) :
    min 0 (n.tdiv 100) ≤ n.tdiv 1000 * 10
      ∧ n.tdiv 1000 * 10 ≤ max 0 (n.tdiv 100) := by
  have hmicros := tdiv_cases n 1000
  have hticks := tdiv_cases n 100
  omega

/-- The span between two points is their distance, cut to ticks, whenever the
ticks fit; that the microseconds fit follows. -/
theorem spanBetween?_eq_some_iff {s : TimeSpan} :
    spanBetween? a b = some s
      ↔ s.ticks.toInt = (nanosBetween a b).tdiv 100 := by
  have hticks := ticks_of_micros (nanosBetween a b)
  unfold spanBetween?
  simp only [Option.bind_eq_bind, Option.bind_eq_some_iff,
    int64?_eq_some_iff, TimeSpan.ofTicks?_eq_some_iff]
  constructor
  · intro h
    obtain ⟨micros, hmicros, ticks, hten, hs⟩ := h
    rw [hs, hten, hmicros, hticks]
  · intro h
    -- the microseconds are a tenth of the ticks, so they fit as well
    have hmin := s.ticks.le_toInt
    have hmax := s.ticks.toInt_lt
    have hbetween := micros_between (nanosBetween a b)
    obtain ⟨micros, hmicros⟩ :=
      exists_toInt_eq (n := (nanosBetween a b).tdiv 1000) (by omega)
        (by omega)
    obtain ⟨ticks, hten⟩ :=
      exists_toInt_eq (n := micros.toInt * 10) (by omega) (by omega)
    refine ⟨micros, hmicros, ticks, hten, ?_⟩
    rw [hten, hmicros, hticks, h]

/-- Between two ordinary points the ticks always fit. -/
theorem exists_spanBetween? (ha : a.Ordinary) (hb : b.Ordinary) :
    ∃ s, spanBetween? a b = some s
      ∧ s.ticks.toInt = (b.nanos - a.nanos).tdiv 100 := by
  have hboundsA := ha.nanos_bounds
  have hboundsB := hb.nanos_bounds
  have hcut := tdiv_cases (b.nanos - a.nanos) 100
  obtain ⟨ticks, hticks⟩ :=
    exists_toInt_eq (n := (b.nanos - a.nanos).tdiv 100) (by omega) (by omega)
  refine ⟨⟨ticks⟩, ?_, hticks⟩
  rw [spanBetween?_eq_some_iff, nanosBetween_eq ha.nano_lt hb.nano_lt]
  exact hticks

-- ================================================================ laws

/-- A sum tells how far it went, and the way back leads where it came from. -/
theorem add?_undo (ht : t.Ordinary) {s : TimeSpan} (h : t.add? s = some r) :
    spanBetween? t r = some s
      ∧ ∃ n, s.negate? = some n ∧ r.add? n = some t := by
  obtain ⟨hr, hnanos⟩ := (add?_eq_some_iff ht.nano_lt).mp h
  have hback : r.nanos - t.nanos = s.ticks.toInt * 100 := by omega
  constructor
  · rw [spanBetween?_eq_some_iff, nanosBetween_eq ht.nano_lt hr.nano_lt,
      hback, Int.mul_tdiv_cancel _ (by omega)]
  · -- both ends are in range, so the span is far from the least number,
    -- which is the one that has no negation
    have hboundsT := ht.nanos_bounds
    have hboundsR := hr.nanos_bounds
    obtain ⟨k, hk⟩ := exists_toInt_eq (n := -s.ticks.toInt) (by omega)
      (by omega)
    refine ⟨⟨k⟩, TimeSpan.ofTicks?_eq_some_iff.mpr hk, ?_⟩
    rw [add?_eq_some_iff hr.nano_lt]
    refine ⟨ht, ?_⟩
    show t.nanos = r.nanos + k.toInt * 100
    omega

/-- Two steps in reach are one step, and its length fits. -/
theorem add?_add? (ht : t.Ordinary) {x y : Int64} (h : t.add? ⟨x⟩ = some a)
    (h' : a.add? ⟨y⟩ = some b) :
    (x + y).toInt = x.toInt + y.toInt ∧ t.add? ⟨x + y⟩ = some b := by
  obtain ⟨ha, hx⟩ := (add?_eq_some_iff ht.nano_lt).mp h
  obtain ⟨hb, hy⟩ := (add?_eq_some_iff ha.nano_lt).mp h'
  dsimp only at hx hy
  have hboundsT := ht.nanos_bounds
  have hboundsB := hb.nanos_bounds
  have hsum : (x + y).toInt = x.toInt + y.toInt := by
    rw [Int64.toInt_add]
    exact Int.bmod_eq_of_le (by omega) (by omega)
  refine ⟨hsum, (add?_eq_some_iff ht.nano_lt).mpr ⟨hb, ?_⟩⟩
  show b.nanos = t.nanos + (x + y).toInt * 100
  omega

/-- The other way round the span is the same but for its sign, also where
nanoseconds are cut off. -/
theorem spanBetween?_swap (ha : a.Ordinary) (hb : b.Ordinary) :
    ∃ s s', spanBetween? b a = some s ∧ spanBetween? a b = some s'
      ∧ s.ticks.toInt = (a.nanos - b.nanos).tdiv 100
      ∧ s.ticks.toInt = -s'.ticks.toInt := by
  obtain ⟨s, hs, hticks⟩ := exists_spanBetween? hb ha
  obtain ⟨s', hs', hticks'⟩ := exists_spanBetween? ha hb
  refine ⟨s, s', hs, hs', hticks, ?_⟩
  rw [hticks, hticks', ← Int.neg_tdiv, Int.neg_sub]

/-- Between whole ticks nothing is cut off. -/
theorem add?_of_spanBetween? (ha : a.Ordinary) (hb : b.Ordinary)
    (hta : a.TickAligned) (htb : b.TickAligned) {s : TimeSpan}
    (h : spanBetween? b a = some s) : b.add? s = some a := by
  rw [tickAligned_iff] at hta htb
  rw [spanBetween?_eq_some_iff, nanosBetween_eq hb.nano_lt ha.nano_lt] at h
  have hcut := tdiv_cases (a.nanos - b.nanos) 100
  refine (add?_eq_some_iff hb.nano_lt).mpr ⟨ha, ?_⟩
  omega

end DateTime

end FilterCriteria
