/-
The members of time spans.
-/
import FilterCriteria.Host.Argument

namespace FilterCriteria.Host

/-- A span, or the failure that it is too long. -/
def spanOrFail (t : Option TimeSpan) : Except EvalError Value :=
  (orFail .spanTooLong t).map .timeSpan

/-- The ticks of the unit that a factory of spans is named for. -/
def factoryUnit? (name : String) : Option Int :=
  match name with
  | "FromDays" => some TimeSpan.ticksPerDay
  | "FromHours" => some TimeSpan.ticksPerHour
  | "FromMinutes" => some TimeSpan.ticksPerMinute
  | "FromSeconds" => some TimeSpan.ticksPerSecond
  | "FromMilliseconds" => some TimeSpan.ticksPerMillisecond
  | _ => none

/-- Calls a method of the type. -/
def callSpanType (name : String) (args : List Value) :
    Except EvalError Value :=
  match factoryUnit? name with
  | some unit => do
    arity name args [1]
    spanOrFail (TimeSpan.ofUnits? (← number args 0) unit)
  | none =>
    if name = "FromTicks" then do
      arity name args [1]
      spanOrFail (TimeSpan.ofTicks? (← integer args 0))
    else .error (.unbound ("TimeSpan." ++ name))

/-- Calls a method of a span. -/
def callSpan (t : TimeSpan) (name : String) (args : List Value) :
    Except EvalError Value :=
  match name with
  | "Add" => do
    arity name args [1]
    spanOrFail (t.add? (← timeSpan args 0))
  | "Subtract" => do
    arity name args [1]
    spanOrFail (t.subtract? (← timeSpan args 0))
  | "Negate" => do
    arity name args [0]
    spanOrFail t.negate?
  | "Duration" => do
    arity name args [0]
    spanOrFail t.magnitude?
  | _ =>
    if name = "ToString" ∧ args.isEmpty then .ok (.string t.text)
    else .error (.unbound ("TimeSpan." ++ name))

/-- Reads a member of a span. -/
def readSpan (t : TimeSpan) (name : String) : Except EvalError Value :=
  match name with
  | "Ticks" => .ok (.long t.ticks)
  | "Days" => .ok (.int (Int32.ofInt t.days))
  | "Hours" => .ok (.int (Int32.ofInt t.hours))
  | "Minutes" => .ok (.int (Int32.ofInt t.minutes))
  | "Seconds" => .ok (.int (Int32.ofInt t.seconds))
  | "Milliseconds" => .ok (.int (Int32.ofInt t.milliseconds))
  | "TotalDays" => .ok (.double (t.total TimeSpan.ticksPerDay))
  | "TotalHours" => .ok (.double (t.total TimeSpan.ticksPerHour))
  | "TotalMinutes" => .ok (.double (t.total TimeSpan.ticksPerMinute))
  | "TotalSeconds" => .ok (.double (t.total TimeSpan.ticksPerSecond))
  | "TotalMilliseconds" =>
    .ok (.double (t.total TimeSpan.ticksPerMillisecond))
  | _ => .error (.unbound ("TimeSpan." ++ name))

/-- Makes a span out of ticks, or out of parts from hours or days on. -/
def constructSpan (args : List Value) : Except EvalError Value := do
  match args.length with
  | 1 => spanOrFail (TimeSpan.ofTicks? (← integer args 0))
  | 3 =>
    spanOrFail (TimeSpan.ofParts? 0 (← integer args 0) (← integer args 1)
      (← integer args 2) 0)
  | 4 =>
    spanOrFail (TimeSpan.ofParts? (← integer args 0) (← integer args 1)
      (← integer args 2) (← integer args 3) 0)
  | 5 =>
    spanOrFail (TimeSpan.ofParts? (← integer args 0) (← integer args 1)
      (← integer args 2) (← integer args 3) (← integer args 4))
  | n =>
    .error (.unbound ("new TimeSpan with " ++ padded 0 n ++ " argument(s)"))

end FilterCriteria.Host
