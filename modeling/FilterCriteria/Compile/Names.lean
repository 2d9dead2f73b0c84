/-
The criteria functions that members, methods and casts of expressions stand
for.
-/
import FilterCriteria.Criterion.Operator
import FilterCriteria.Expr.Operator
import FilterCriteria.Ty

namespace FilterCriteria.Compile

open Criterion (Builtin)

-- ============================================================= methods

/-- The methods that go by another name than their function. -/
def renamed? (method : String) : Option Builtin :=
  match method with
  | "ToLower" => some .lower
  | "ToUpper" => some .upper
  | "ToString" => some .toStr
  | "AddMilliseconds" => some .addMilliSeconds
  | "Add" => some .addTimeSpan
  | "Atan" => some .atn
  | "Atan2" => some .atn2
  | "ToChar" => some .char
  | "Pow" => some .power
  | "Sqrt" => some .sqr
  | "ToSingle" => some .toFloat
  | "ToInt32" => some .toInt
  | "ToInt64" => some .toLong
  | _ => none

/-- The built-in function of a method. -/
def methodFunction? (method : String) : Option Builtin :=
  (renamed? method).or (Builtin.ofName? method)

-- ============================================================= members

/-- The function of a member of points in time. -/
def datePart? (member : String) : Option Builtin :=
  match member with
  | "Date" => some .getDate
  | "Day" => some .getDay
  | "DayOfWeek" => some .getDayOfWeek
  | "DayOfYear" => some .getDayOfYear
  | "Hour" => some .getHour
  | "Millisecond" => some .getMilliSecond
  | "Minute" => some .getMinute
  | "Month" => some .getMonth
  | "Second" => some .getSecond
  | "TimeOfDay" => some .getTimeOfDay
  | "Year" => some .getYear
  | _ => none

/-- The function of a member of values of a type. -/
def memberFunction? (owner : Ty) (member : String) : Option Builtin :=
  match owner.underlying with
  | .string => if member = "Length" then some .len else none
  | .dateTime => datePart? member
  | _ => none

-- =============================================================== casts

/-- The function of a cast to a type. -/
def castFunction? (target : Ty) : Option Builtin :=
  match target.underlying with
  | .char => some .char
  | .decimal => some .toDecimal
  | .double => some .toDouble
  | .single => some .toFloat
  | .int32 => some .toInt
  | .int64 => some .toLong
  | _ => none

/-- Does a cast leave the value as it is? It does between types that differ
in nullability only, and to a record type. -/
def isReferenceCast (source target : Ty) : Bool :=
  source == target || source.underlying == target.underlying
    || match target with
      | .object _ => true
      | _ => false

-- =========================================================== operators

/-- The criteria operator of an operator; some have none. -/
def binaryOperator? (op : Expr.BinaryOp) : Option Criterion.BinaryOp :=
  match op with
  | .andAlso => some .and
  | .orElse => some .or
  | .equal => some .equal
  | .notEqual => some .notEqual
  | .greaterThan => some .greater
  | .greaterThanOrEqual => some .greaterOrEqual
  | .lessThan => some .less
  | .lessThanOrEqual => some .lessOrEqual
  | .and => some .bitwiseAnd
  | .or => some .bitwiseOr
  | .exclusiveOr => some .bitwiseXor
  | .add => some .plus
  | .subtract => some .minus
  | .multiply => some .multiply
  | .divide => some .divide
  | .modulo => some .modulo
  | .coalesce | .leftShift | .rightShift | .power | .arrayIndex => none

/-- What the lambda of a method on sequences is for. -/
inductive LambdaRole where
  | projection
  | condition
deriving DecidableEq

/-- The aggregate of a method on sequences, and the role of its lambda. -/
def sequenceMethod? (method : String) :
    Option (Criterion.Aggregate × LambdaRole) :=
  match method with
  | "Average" => some (.avg, .projection)
  | "Max" => some (.max, .projection)
  | "Min" => some (.min, .projection)
  | "Sum" => some (.sum, .projection)
  | "Count" => some (.count, .condition)
  | "Any" | "Where" => some (.any, .condition)
  | "Single" | "SingleOrDefault" => some (.single, .condition)
  | _ => none

end FilterCriteria.Compile
