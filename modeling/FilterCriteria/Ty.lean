/-
Static types of expressions, as far as they matter to a filter.
-/

namespace FilterCriteria

/-- A static type. -/
inductive Ty where
  | void
  | bool
  | char
  | byte
  | int32
  | int64
  | single
  | double
  | decimal
  | string
  | dateTime
  | timeSpan
  /-- A record type, by its name. -/
  | object (name : String)
  /-- A sequence of elements of one type. -/
  | sequence (element : Ty)
  /-- The values of a type, and null. -/
  | nullable (inner : Ty)
deriving DecidableEq

namespace Ty

/-- The type of values of which nothing is known. -/
def anyObject : Ty := .object "Object"

/-- The type without one layer of nullability. -/
def underlying : Ty → Ty
  | .nullable inner => inner
  | t => t

def isBool (t : Ty) : Bool :=
  t.underlying == .bool

/-- The type of a sequence's elements. -/
def element? : Ty → Option Ty
  | .sequence t => some t
  | _ => none

/-- The name of a type. -/
def text : Ty → String
  | .void => "Void"
  | .bool => "Boolean"
  | .char => "Char"
  | .byte => "Byte"
  | .int32 => "Int32"
  | .int64 => "Int64"
  | .single => "Single"
  | .double => "Double"
  | .decimal => "Decimal"
  | .string => "String"
  | .dateTime => "DateTime"
  | .timeSpan => "TimeSpan"
  | .object name => name
  | .sequence t => "IEnumerable`1[" ++ t.text ++ "]"
  | .nullable t => "Nullable`1[" ++ t.text ++ "]"

end Ty

end FilterCriteria
