/-
Time spans: signed numbers of ticks of 100 nanoseconds, in 64 bits. Every
operation that can leave the 64 bits says so with `none`.
-/
import FilterCriteria.Number.Binary
import FilterCriteria.Number.Digits

namespace FilterCriteria

/-- A signed time interval. -/
structure TimeSpan where
  ticks : Int64
deriving DecidableEq

namespace TimeSpan

-- =============================================================== units

def ticksPerMillisecond : Int := 10000
def ticksPerSecond : Int := 10000000
def ticksPerMinute : Int := 600000000
def ticksPerHour : Int := 36000000000
def ticksPerDay : Int := 864000000000

def zero : TimeSpan := ⟨0⟩
def minValue : TimeSpan := ⟨Int64.minValue⟩
def maxValue : TimeSpan := ⟨Int64.maxValue⟩

-- ======================================================== construction

/-- The span of so many ticks, if they fit. -/
def ofTicks? (ticks : Int) : Option TimeSpan :=
  (int64? ticks).map TimeSpan.mk

/-- The span of a fractional number of units, to the nearest tick, a half
going away from zero. The product of an infinite number of units and a unit
of no ticks is not a number, and is taken for no ticks. -/
def ofUnits? (units : Float) (ticksPerUnit : Int) : Option TimeSpan :=
  if units.isNaN then none
  else
    match Reading.ofDouble (units * Double.ofInt ticksPerUnit) with
    | .nan => some zero
    | product => product.toInt? .halfAway >>= ofTicks?

/-- The span of the five parts together. Each part by itself and each sum
on the way, from days down to milliseconds, has to fit as well. -/
def ofParts? (days hours minutes seconds milliseconds : Int) :
    Option TimeSpan := do
  let days ← ofTicks? (days * ticksPerDay)
  let hours ← ofTicks? (hours * ticksPerHour)
  let minutes ← ofTicks? (minutes * ticksPerMinute)
  let seconds ← ofTicks? (seconds * ticksPerSecond)
  let milliseconds ← ofTicks? (milliseconds * ticksPerMillisecond)
  let sum ← ofTicks? (days.ticks.toInt + hours.ticks.toInt)
  let sum ← ofTicks? (sum.ticks.toInt + minutes.ticks.toInt)
  let sum ← ofTicks? (sum.ticks.toInt + seconds.ticks.toInt)
  ofTicks? (sum.ticks.toInt + milliseconds.ticks.toInt)

-- ========================================================== arithmetic

def add? (a b : TimeSpan) : Option TimeSpan :=
  ofTicks? (a.ticks.toInt + b.ticks.toInt)

def subtract? (a b : TimeSpan) : Option TimeSpan :=
  ofTicks? (a.ticks.toInt - b.ticks.toInt)

def negate? (a : TimeSpan) : Option TimeSpan :=
  ofTicks? (-a.ticks.toInt)

/-- The span without its sign. -/
def magnitude? (a : TimeSpan) : Option TimeSpan :=
  ofTicks? a.ticks.toInt.natAbs

-- =============================================================== parts

/-- The whole units in the span beyond those of the next larger unit, of
which there are `count` in one. Both divisions go toward zero, so that
every part has the sign of the span. -/
def part (a : TimeSpan) (ticksPerUnit count : Int) : Int :=
  (a.ticks.toInt.tdiv ticksPerUnit).tmod count

def days (a : TimeSpan) : Int := a.ticks.toInt.tdiv ticksPerDay
def hours (a : TimeSpan) : Int := a.part ticksPerHour 24
def minutes (a : TimeSpan) : Int := a.part ticksPerMinute 60
def seconds (a : TimeSpan) : Int := a.part ticksPerSecond 60
def milliseconds (a : TimeSpan) : Int := a.part ticksPerMillisecond 1000

/-- The span as a fractional number of units. -/
def total (a : TimeSpan) (ticksPerUnit : Int) : Float :=
  Double.ofInt a.ticks.toInt / Double.ofInt ticksPerUnit

/-- The span in nanoseconds, those of the whole microseconds and those of the
ticks left over. -/
def nanoseconds (a : TimeSpan) : Int :=
  a.ticks.toInt.tdiv 10 * 1000 + a.ticks.toInt.tmod 10 * 100

/-- Whole seconds and the nanoseconds left over, both toward zero. -/
def secondsAndNanos (a : TimeSpan) : Int × Int :=
  (a.nanoseconds.tdiv 1000000000, a.nanoseconds.tmod 1000000000)

-- ================================================================ text

/-- The text `[-][d.]hh:mm:ss[.fffffff]`. Days show when there are any, the
seven places of the fraction when one is not zero. -/
def text (a : TimeSpan) : String :=
  let n := a.ticks.toInt.natAbs
  let days := n / 864000000000
  let rest := n % 864000000000
  let fraction := rest % 10000000
  (if a.ticks < 0 then "-" else "")
    ++ (if 0 < days then padded 0 days ++ "." else "")
    ++ padded 2 (rest / 36000000000) ++ ":"
    ++ padded 2 (rest / 600000000 % 60) ++ ":"
    ++ padded 2 (rest / 10000000 % 60)
    ++ (if 0 < fraction then "." ++ padded 7 fraction else "")

end TimeSpan

end FilterCriteria
