/-
Points in time and spans under the methods of the host. Adding a span and
taking a point in time away are inverse to each other, spans add up when they
are added one after the other, and none of this is off by a nanosecond.

The laws are those of the timeline, where a point in time is its number of
nanoseconds and adding is an addition of integers. Here they are carried over
to the calls: a call succeeds exactly where the timeline has a result in
range, and `Subtract` is two methods, told apart by the type of its argument.
Leap seconds are left out (`Ordinary`), and a distance is cut to whole ticks,
so it leads back only between points on whole ticks (`TickAligned`).
-/
import FilterCriteria.Host.Dates
import FilterCriteria.Host.Span
import FilterCriteria.Proofs.Time.Timeline

namespace FilterCriteria.Host

-- =============================================================== calls

/-- A call that may leave the range succeeds exactly if there is a point in
time. -/
theorem dateOrFail_eq_ok {x : Option DateTime} {r : DateTime} :
    dateOrFail x = .ok (.dateTime r) ↔ x = some r := by
  cases x with
  | none => exact ⟨nofun, nofun⟩
  | some t =>
      show Except.ok (Value.dateTime t) = .ok (.dateTime r) ↔ _
      rw [Except.ok.injEq, Value.dateTime.injEq, Option.some.injEq]

theorem callDate_add (t : DateTime) (s : TimeSpan) :
    callDate t "Add" [.timeSpan s] = dateOrFail (t.add? s) := by
  rfl

/-- A number of ticks is added as the span of so many ticks. -/
theorem callDate_addTicks (t : DateTime) (x : Int64) :
    callDate t "AddTicks" [.long x] = dateOrFail (t.add? ⟨x⟩) := by
  have hspan : TimeSpan.ofTicks? x.toInt = some ⟨x⟩ :=
    TimeSpan.ofTicks?_toInt ⟨x⟩
  show (orFail .dateOutOfRange (TimeSpan.ofTicks? x.toInt) >>= fun s =>
    dateOrFail (t.add? s)) = _
  rw [hspan]
  rfl

theorem callDate_subtract (t other : DateTime) :
    callDate t "Subtract" [.dateTime other]
      = spanOrFail (other.spanBetween? t) := by
  show subtract t [.dateTime other] = _
  rfl

/-- A span is taken away by adding its negative, for as long as it has one. -/
theorem callDate_subtractSpan (t : DateTime) {s n : TimeSpan}
    (h : s.negate? = some n) :
    callDate t "Subtract" [.timeSpan s] = dateOrFail (t.add? n) := by
  show (orFail .dateOutOfRange s.negate? >>= fun n =>
    dateOrFail (t.add? n)) = _
  rw [h]
  rfl

-- ================================================================ laws

/-- Points in time and spans are added and taken away exactly. `Add` gives the
point in time that is so far away, if there is one, and `Subtract` takes it
apart again, into the span or into the point in time it started from. Two calls
of `AddTicks` that succeed are one call with the sum, which fits. The span
between two points in time always exists, is their distance in whole ticks and
changes its sign with their order; added to the one it gives the other, unless
less than a tick is cut off. -/
theorem callDate_add_subtract {t a b : DateTime} (ht : t.Ordinary)
    (ha : a.Ordinary) (hb : b.Ordinary) (s : TimeSpan) (x y : Int64) :
    (∀ r, callDate t "Add" [.timeSpan s] = .ok (.dateTime r)
      ↔ r.Ordinary ∧ r.nanos = t.nanos + s.ticks.toInt * 100)
    ∧ (∀ r, callDate t "Add" [.timeSpan s] = .ok (.dateTime r) →
      callDate r "Subtract" [.dateTime t] = .ok (.timeSpan s)
        ∧ callDate r "Subtract" [.timeSpan s] = .ok (.dateTime t))
    ∧ (∀ r₁ r₂, callDate t "AddTicks" [.long x] = .ok (.dateTime r₁) →
      callDate r₁ "AddTicks" [.long y] = .ok (.dateTime r₂) →
      (x + y).toInt = x.toInt + y.toInt
        ∧ callDate t "AddTicks" [.long (x + y)] = .ok (.dateTime r₂))
    ∧ ∃ d d', callDate a "Subtract" [.dateTime b] = .ok (.timeSpan d)
      ∧ callDate b "Subtract" [.dateTime a] = .ok (.timeSpan d')
      ∧ d.ticks.toInt = (a.nanos - b.nanos).tdiv 100
      ∧ d.ticks.toInt = -d'.ticks.toInt
      ∧ (a.TickAligned → b.TickAligned →
        callDate b "Add" [.timeSpan d] = .ok (.dateTime a)) := by
  refine ⟨?_, ?_, ?_, ?_⟩
  · intro r
    rw [callDate_add, dateOrFail_eq_ok]
    exact DateTime.add?_eq_some_iff ht.nano_lt
  · intro r hr
    rw [callDate_add, dateOrFail_eq_ok] at hr
    obtain ⟨hspan, n, hn, hback⟩ := DateTime.add?_undo ht hr
    constructor
    · rw [callDate_subtract, hspan]
      rfl
    · rw [callDate_subtractSpan r hn, dateOrFail_eq_ok]
      exact hback
  · intro r₁ r₂ h₁ h₂
    rw [callDate_addTicks, dateOrFail_eq_ok] at h₁ h₂
    obtain ⟨hsum, hadd⟩ := DateTime.add?_add? ht h₁ h₂
    refine ⟨hsum, ?_⟩
    rw [callDate_addTicks, dateOrFail_eq_ok]
    exact hadd
  · obtain ⟨d, d', hd, hd', hticks, hneg⟩ := DateTime.spanBetween?_swap ha hb
    refine ⟨d, d', ?_, ?_, hticks, hneg, ?_⟩
    · rw [callDate_subtract, hd]
      rfl
    · rw [callDate_subtract, hd']
      rfl
    · intro hta htb
      rw [callDate_add, dateOrFail_eq_ok]
      exact DateTime.add?_of_spanBetween? ha hb hta htb hd

/-- Over the midnight after a leap day, from nanoseconds within a tick; and
from the first point in time to the last. -/
theorem callDate_add_subtract_leapDay :
    ∃ t r, DateTime.ofParts? ⟨2024, 2, 29⟩ 23 59 30 123456789 = some t
      ∧ DateTime.ofParts? ⟨2024, 3, 1⟩ 0 0 0 123456889 = some r
      ∧ callDate t "Add" [.timeSpan ⟨300000001⟩] = .ok (.dateTime r)
      ∧ callDate r "Subtract" [.dateTime t] = .ok (.timeSpan ⟨300000001⟩)
      ∧ callDate r "Subtract" [.timeSpan ⟨300000001⟩] = .ok (.dateTime t)
      ∧ callDate t "AddTicks" [.long (-700000000 + 1000000001)]
        = .ok (.dateTime r)
      ∧ callDate .minValue "Add" [.timeSpan ⟨3155378975999999999⟩]
        = .ok (.dateTime .maxValue) := by
  let t : DateTime :=
    ⟨738944, 86370, 123456789, by decide, by decide⟩
  let m : DateTime :=
    ⟨738944, 86300, 123456789, by decide, by decide⟩
  let r : DateTime := ⟨738945, 0, 123456889, by decide, by decide⟩
  have ht : t.Ordinary := ⟨by decide, by decide⟩
  obtain ⟨hexact, hundo, hticks, d, d', hd, -, -, -, hback⟩ :=
    callDate_add_subtract ht DateTime.ordinary_maxValue
      DateTime.ordinary_minValue ⟨300000001⟩ (-700000000) 1000000001
  have hr : callDate t "Add" [.timeSpan ⟨300000001⟩] = .ok (.dateTime r) :=
    (hexact r).mpr ⟨⟨by decide, by decide⟩, by decide⟩
  have hm : callDate t "AddTicks" [.long (-700000000)]
      = .ok (.dateTime m) := by
    rw [callDate_addTicks, dateOrFail_eq_ok]
    decide +kernel
  have hmr : callDate m "AddTicks" [.long 1000000001]
      = .ok (.dateTime r) := by
    rw [callDate_addTicks, dateOrFail_eq_ok]
    decide +kernel
  have hspan : callDate .maxValue "Subtract" [.dateTime .minValue]
      = .ok (.timeSpan ⟨3155378975999999999⟩) := by
    rfl
  rw [hspan] at hd
  cases hd
  refine ⟨t, r, by decide +kernel, by decide +kernel, hr, (hundo r hr).1,
    (hundo r hr).2, (hticks m r hm hmr).2, ?_⟩
  exact hback rfl rfl

end FilterCriteria.Host
