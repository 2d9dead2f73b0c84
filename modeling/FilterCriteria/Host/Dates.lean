/-
The members of points in time. Whatever is computed lies between the least
and the greatest point in time, or the computation fails; only then is a file
time shown in local time, which is not checked again.
-/
import FilterCriteria.Host.Argument
import FilterCriteria.Time.Zone

namespace FilterCriteria.Host

-- =============================================================== shifts

/-- A point in time, or the failure that it is out of range. -/
def dateOrFail (t : Option DateTime) : Except EvalError Value :=
  (orFail .dateOutOfRange t).map .dateTime

/-- The ticks of the unit that a method adds. -/
def addedUnit? (name : String) : Option Int :=
  match name with
  | "AddDays" => some TimeSpan.ticksPerDay
  | "AddHours" => some TimeSpan.ticksPerHour
  | "AddMinutes" => some TimeSpan.ticksPerMinute
  | "AddSeconds" => some TimeSpan.ticksPerSecond
  | "AddMilliseconds" => some TimeSpan.ticksPerMillisecond
  | _ => none

/-- Adds a fractional number of units. -/
def addUnits (t : DateTime) (units : Float) (unit : Int) :
    Except EvalError Value := do
  let span ← orFail .dateOutOfRange (TimeSpan.ofUnits? units unit)
  dateOrFail (t.add? span)

/-- Takes a point in time away, which leaves a span, or a span, which leaves
a point in time. -/
def subtract (t : DateTime) (args : List Value) : Except EvalError Value :=
  match args with
  | .dateTime other :: _ =>
    (orFail .spanTooLong (other.spanBetween? t)).map .timeSpan
  | args => do
    let span ← timeSpan args 0
    let negated ← orFail .dateOutOfRange span.negate?
    dateOrFail (t.add? negated)

/-- Calls a method of a point in time. -/
def callDate (t : DateTime) (name : String) (args : List Value) :
    Except EvalError Value :=
  match addedUnit? name with
  | some unit => do
    arity name args [1]
    addUnits t (← number args 0) unit
  | none =>
    match name with
    | "AddTicks" => do
      arity name args [1]
      let span ← orFail .dateOutOfRange (TimeSpan.ofTicks? (← integer args 0))
      dateOrFail (t.add? span)
    | "AddMonths" => do
      arity name args [1]
      dateOrFail (t.addMonths? (← integer args 0))
    | "AddYears" => do
      arity name args [1]
      let months ← orFail .dateOutOfRange (int64? (12 * (← integer args 0)))
      dateOrFail (t.addMonths? months.toInt)
    | "Add" => do
      arity name args [1]
      dateOrFail (t.add? (← timeSpan args 0))
    | "Subtract" => do
      arity name args [1]
      subtract t args
    | _ => .error (.unbound ("DateTime." ++ name))

-- =============================================================== parts

/-- The ticks of a span, or none if it is too long. -/
def ticksOrZero (t : Option TimeSpan) : Int64 :=
  (t.getD .zero).ticks

/-- Reads a member of a point in time. -/
def readDate (t : DateTime) (name : String) : Except EvalError Value :=
  let int (n : Int) := Except.ok (Value.int (Int32.ofInt n))
  match name with
  | "Year" => int t.date.year
  | "Month" => int t.date.month
  | "Day" => int t.date.day
  | "Hour" => int t.hour
  | "Minute" => int t.minute
  | "Second" => int t.secondOfMinute
  | "Millisecond" => int (t.nano / 1000000)
  | "DayOfYear" => int t.date.dayOfYear
  | "DayOfWeek" => int t.dayOfWeek
  | "Date" => .ok (.dateTime t.midnight)
  | "TimeOfDay" =>
    .ok (.timeSpan ⟨ticksOrZero (t.midnight.spanBetween? t)⟩)
  | "Ticks" => .ok (.long (ticksOrZero (DateTime.minValue.spanBetween? t)))
  | _ => .error (.unbound ("DateTime." ++ name))

-- ======================================================== construction

/-- A number that fits 32 bits without a sign. -/
def unsigned? (n : Int) : Option Nat :=
  if 0 ≤ n ∧ n < 4294967296 then some n.toNat else none

/-- The date with these parts, in the years 1 to 9999. -/
def dateOfParts (year month day : Int) : Except EvalError Date :=
  if 1 ≤ year ∧ year ≤ 9999 then do
    let month ← orFail .invalidDate (unsigned? month)
    let day ← orFail .invalidDate (unsigned? day)
    let date : Date := ⟨year, month, day⟩
    if date.isValid then .ok date else .error (.failed .invalidDate)
  else .error (.failed .invalidDate)

/-- The date in the first three arguments. -/
def dateArguments (args : List Value) : Except EvalError Date := do
  dateOfParts (← integer args 0) (← integer args 1) (← integer args 2)

/-- A date with a time of day. -/
def withTime (date : Date) (hour minute second millisecond : Int) :
    Except EvalError Value := do
  let hour ← orFail .invalidTime (unsigned? hour)
  let minute ← orFail .invalidTime (unsigned? minute)
  let second ← orFail .invalidTime (unsigned? second)
  let millisecond ← orFail .invalidTime (unsigned? millisecond)
  if 999 < millisecond then .error (.failed .invalidTime)
  else
    (orFail .invalidTime (DateTime.ofParts? date hour minute second
      (millisecond * 1000000))).map .dateTime

/-- Makes a point in time out of a date, with a time to seconds or to
milliseconds. -/
def constructDate (args : List Value) : Except EvalError Value := do
  match args.length with
  | 3 => withTime (← dateArguments args) 0 0 0 0
  | 6 =>
    withTime (← dateArguments args) (← integer args 3) (← integer args 4)
      (← integer args 5) 0
  | 7 =>
    withTime (← dateArguments args) (← integer args 3) (← integer args 4)
      (← integer args 5) (← integer args 6)
  | n =>
    .error (.unbound ("new DateTime with " ++ padded 0 n ++ " argument(s)"))

-- ============================================================ the type

/-- The day that dates of documents count from: 1899-12-30. -/
def oleEpoch : DateTime :=
  .ofDay (Date.toDayNumber ⟨1899, 12, 30⟩)

/-- The day that file times count from: 1601-01-01. -/
def fileTimeEpoch : DateTime :=
  .ofDay (Date.toDayNumber ⟨1601, 1, 1⟩)

/-- The point in time of a file time, in UTC. -/
def fileTime (ticks : Int) : Except EvalError DateTime := do
  if ticks < 0 then .error (.failed .invalidFileTime)
  else
    let span ← orFail .dateOutOfRange (TimeSpan.ofTicks? ticks)
    orFail .dateOutOfRange (fileTimeEpoch.add? span)

/-- The point in time of a date of a document, which counts in days. -/
def fromOleDate (days : Float) : Except EvalError Value := do
  let span ← orFail .dateOutOfRange
    (TimeSpan.ofUnits? days TimeSpan.ticksPerDay)
  (orFail .invalidOleDate (oleEpoch.add? span)).map .dateTime

/-- Calls a method of the type, where local time is that of the zone. -/
def callDateType (zone : Zone) (name : String) (args : List Value) :
    Except EvalError Value :=
  match name with
  | "FromOADate" => do
    arity name args [1]
    fromOleDate (← number args 0)
  | "FromFileTimeUtc" => do
    arity name args [1]
    (fileTime (← integer args 0)).map .dateTime
  | "FromFileTime" => do
    arity name args [1]
    (fileTime (← integer args 0)).map fun t => .dateTime (zone.localTime t)
  | "FromBinary" => do
    arity name args [1]
    -- the two highest bits are flags, not ticks
    let ticks := (← integer args 0) % 0x4000000000000000
    let span ← orFail .dateOutOfRange (TimeSpan.ofTicks? ticks)
    dateOrFail (DateTime.minValue.add? span)
  | "DaysInMonth" => do
    arity name args [2]
    let first ← dateOfParts (← integer args 0) (← integer args 1) 1
    let next := first.addMonths 1
    pure (.int (Int32.ofInt (next.toDayNumber - first.toDayNumber)))
  | "IsLeapYear" => do
    arity name args [1]
    pure (.bool (isLeapYear (← integer args 0)))
  | _ => .error (.unbound ("DateTime." ++ name))

end FilterCriteria.Host
