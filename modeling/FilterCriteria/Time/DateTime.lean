/-
Points in time without a zone: a day, a second of that day, and nanoseconds.
A second may be followed by a leap second, which is kept as more than a
second's worth of nanoseconds. Whatever is put together from its parts or
read from a text has leap seconds after the last second of a minute only
(`DateTime.ofParts?`), but a point in time itself can have one after any
second: clocks whose zone is off by less than a minute show it there.
-/
import FilterCriteria.Time.Calendar
import FilterCriteria.Time.Span

namespace FilterCriteria

/-- A point in time. In a leap second `nano` is a billion or more, and
`second` is the second before it. -/
structure DateTime where
  day : Int
  second : Nat
  nano : Nat
  second_lt : second < 86400
  nano_lt : nano < 2000000000
deriving DecidableEq

namespace DateTime

-- ======================================================== construction

/-- Midnight at the start of a day. -/
def ofDay (day : Int) : DateTime :=
  ⟨day, 0, 0, by omega, by omega⟩

/-- The point in time with these parts, if the calendar and the clock have
it. The clock has leap seconds after the last second of a minute only. -/
def ofParts? (date : Date) (hour minute second nano : Nat) :
    Option DateTime :=
  if h : hour < 24 ∧ minute < 60 ∧ second < 60 ∧ nano < 2000000000
      ∧ (1000000000 ≤ nano → second = 59) then
    if date.isValid then
      some ⟨date.toDayNumber, hour * 3600 + minute * 60 + second, nano,
        by omega, by omega⟩
    else none
  else none

/-- The earliest point in time that computations reach:
0001-01-01 00:00:00. -/
def minValue : DateTime :=
  ofDay 0

/-- The latest point in time that computations reach:
9999-12-31 23:59:59.9999999. -/
def maxValue : DateTime :=
  ⟨3652058, 86399, 999999900, by omega, by omega⟩

-- =============================================================== parts

def date (t : DateTime) : Date := .ofDayNumber t.day

def hour (t : DateTime) : Nat := t.second / 3600

def minute (t : DateTime) : Nat := t.second / 60 % 60

/-- The second of the minute; a leap second does not count. -/
def secondOfMinute (t : DateTime) : Nat := t.second % 60

/-- The second of the minute as it is written, where a leap second is the
next one: the second 60 after the last second of a minute. -/
def shownSecond (t : DateTime) : Nat :=
  t.secondOfMinute + t.nano / 1000000000

/-- The day of the week, counted from Sunday as 0. Day 0 is a Monday. -/
def dayOfWeek (t : DateTime) : Int := (t.day + 1) % 7

/-- The start of the day. -/
def midnight (t : DateTime) : DateTime := ofDay t.day

-- =============================================================== order

/-- Is `a` no later than `b`? Leap seconds come after the second they
follow. -/
def noLater (a b : DateTime) : Bool :=
  a.day < b.day || (a.day == b.day
    && (a.second < b.second || (a.second == b.second && a.nano ≤ b.nano)))

/-- Is the point in time one that computations reach? -/
def inRange (t : DateTime) : Bool :=
  minValue.noLater t && t.noLater maxValue

-- ========================================================== arithmetic

/-- The point in time at so many seconds after the start of `day`, which
may be more than a day or negative, and so many nanoseconds. -/
def atSecond (day seconds : Int) (nano : Nat) (h : nano < 1000000000) :
    DateTime :=
  ⟨day + seconds / 86400, (seconds % 86400).toNat, nano,
    by omega, by omega⟩

/-- The point in time a span later. From inside a leap second, a span that
does not leave it, nor the second in front, just moves the nanoseconds. A
span that does leave it backward counts the leap second as the next one. -/
def add (t : DateTime) (span : TimeSpan) : DateTime :=
  let seconds := span.nanoseconds.tdiv 1000000000
  let nanos := span.nanoseconds.tmod 1000000000
  if h : 1000000000 ≤ t.nano ∧ seconds = 0 ∧ t.nano + nanos < 2000000000 then
    ⟨t.day, t.second, (t.nano + nanos).toNat, t.second_lt, by omega⟩
  else
    let leap := decide (1000000000 ≤ t.nano)
    let start : Int := t.second + if leap && seconds < 0 then 1 else 0
    let nano : Int := t.nano - (if leap then 1000000000 else 0) + nanos
    atSecond t.day (start + seconds + nano / 1000000000)
      (nano % 1000000000).toNat (by omega)

/-- The point in time a span later, if computations reach it. -/
def add? (t : DateTime) (span : TimeSpan) : Option DateTime :=
  let r := t.add span
  if r.inRange then some r else none

/-- The point in time so many months later, or earlier for a negative number,
if computations reach it. Without its sign the number has to fit 32 bits. The
time of day stays. -/
def addMonths? (t : DateTime) (months : Int) : Option DateTime :=
  if months.natAbs < 4294967296 then
    let r := { t with day := (t.date.addMonths months).toDayNumber }
    if r.inRange then some r else none
  else none

/-- The nanoseconds from `a` to `b`. A leap second between them counts when
the earlier one is in it, as far as the times of day go. -/
def nanosBetween (a b : DateTime) : Int :=
  let seconds : Int := (b.second : Int) - a.second
    + (if a.second < b.second ∧ 1000000000 ≤ a.nano then 1 else 0)
    - (if b.second < a.second ∧ 1000000000 ≤ b.nano then 1 else 0)
  ((b.day - a.day) * 86400 + seconds) * 1000000000 + b.nano - a.nano

/-- The span from `a` to `b`, to whole ticks toward zero, if it fits. The
whole microseconds have ten ticks each, and have to fit as well. -/
def spanBetween? (a b : DateTime) : Option TimeSpan := do
  let elapsed := nanosBetween a b
  let micros ← int64? (elapsed.tdiv 1000)
  let ticks ← int64? (micros.toInt * 10)
  TimeSpan.ofTicks? (ticks.toInt + (elapsed.tmod 1000).tdiv 100)

end DateTime

end FilterCriteria
