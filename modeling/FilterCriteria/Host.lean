/-
The evaluator for the members of the host's own types, to which a program
can add static functions and values of its own.
-/
import FilterCriteria.Eval.Evaluator
import FilterCriteria.Host.Dates
import FilterCriteria.Host.Math
import FilterCriteria.Host.Span
import FilterCriteria.Host.Strings

namespace FilterCriteria

/-- A static function of a program: from argument values to a result. -/
abbrev HostFunction := List Value → Except EvalError Value

/-- The host: its clock and its zone, and what a program has bound. The last
binding of a name comes first.

The clock stands still: every member that tells the time tells `now`, in UTC
or as the zone shows it. So a statement about a host is about one reading of
its clock, and two expressions that are compared are evaluated at the same
time. -/
structure Host where
  /-- The time now, in UTC. -/
  now : DateTime
  /-- The zone of local time. -/
  zone : Zone := .utc
  functions : List ((String × String) × HostFunction) := []
  statics : List ((String × String) × Value) := []

namespace Host

/-- Calls a method of a value. -/
def callValue (receiver : Value) (name : String) (args : List Value) :
    Except EvalError Value :=
  match receiver with
  | .dateTime t => callDate t name args
  | .timeSpan t => callSpan t name args
  | .string s => callString s name args
  | v =>
    if name = "ToString" ∧ args.isEmpty then (valueText v).map .string
    else .error (.unbound (v.kindName ++ "." ++ name))

/-- Calls a method of a type, where local time is that of the zone. -/
def callType (zone : Zone) (owner name : String) (args : List Value) :
    Except EvalError Value :=
  match owner with
  | "Math" => callMath name args
  | "TimeSpan" => callSpanType name args
  | "DateTime" => callDateType zone name args
  | "String" => callStringType name args
  | "Convert" => callConvert name args
  | owner => .error (.unbound (owner ++ "." ++ name))

/-- Calls a method. The functions of the program come before those of the
host. -/
def call (h : Host) (method : Method) (receiver : Option Value)
    (args : List Value) : Except EvalError Value :=
  match receiver with
  | some v => callValue v method.name args
  | none =>
    match h.functions.lookup (method.owner, method.name) with
    | some f => f args
    | none => callType h.zone method.owner method.name args

-- ============================================================= members

/-- The static values of the host's types. -/
def static? (h : Host) (owner name : String) : Option Value :=
  match owner, name with
  | "DateTime", "Now" => some (.dateTime (h.zone.localTime h.now))
  | "DateTime", "UtcNow" => some (.dateTime h.now)
  | "DateTime", "Today" => some (.dateTime (h.zone.localTime h.now).midnight)
  | "DateTime", "MinValue" => some (.dateTime DateTime.minValue)
  | "DateTime", "MaxValue" => some (.dateTime DateTime.maxValue)
  | "TimeSpan", "Zero" => some (.timeSpan TimeSpan.zero)
  | "TimeSpan", "MaxValue" => some (.timeSpan TimeSpan.maxValue)
  | "TimeSpan", "MinValue" => some (.timeSpan TimeSpan.minValue)
  | "Math", "PI" => some (.double (Float.ofBits 0x400921FB54442D18))
  | "Math", "E" => some (.double (Float.ofBits 0x4005BF0A8B145769))
  | "String", "Empty" => some (.string "")
  | "Int32", "MaxValue" => some (.int Int32.maxValue)
  | "Int32", "MinValue" => some (.int Int32.minValue)
  | "Int64", "MaxValue" => some (.long Int64.maxValue)
  | "Int64", "MinValue" => some (.long Int64.minValue)
  | _, _ => none

/-- Reads a member of a type. The values of the program come before those
of the host. -/
def readStatic (h : Host) (owner name : String) : Except EvalError Value :=
  match h.statics.lookup (owner, name) with
  | some v => .ok v
  | none =>
    match h.static? owner name with
    | some v => .ok v
    | none => .error (.unbound (owner ++ "." ++ name))

/-- The number of elements or characters. -/
def length (n : Nat) : Except EvalError Value :=
  orFail (.lengthOverflow n) ((int32? n).map .int)

/-- Reads a member of a value. -/
def readMember (target : Value) (name : String) : Except EvalError Value :=
  match target with
  | .dateTime t => readDate t name
  | .timeSpan t => readSpan t name
  | .string s =>
    if name = "Length" then length s.length else target.readField name
  | .array items =>
    if name = "Length" ∨ name = "Count" then length items.length
    else target.readField name
  | target => target.readField name

/-- Makes an object of a type. -/
def construct (ty : Ty) (args : List Value) : Except EvalError Value :=
  match ty.underlying with
  | .dateTime => constructDate args
  | .timeSpan => constructSpan args
  | ty => .error (.unbound ("new " ++ ty.text))

/-- The host as an evaluator. -/
def evaluator (h : Host) : Evaluator where
  call := h.call
  readStatic := h.readStatic
  construct := construct
  readMember := readMember
  convert := Value.convert

end Host

end FilterCriteria
