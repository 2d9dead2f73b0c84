/-
Conversions of literal values between types, and the read of an object's
field. Evaluators share both.
-/
import FilterCriteria.Eval.Error
import FilterCriteria.Value

namespace FilterCriteria.Value

/-- The value of an object's field. -/
def readField (target : Value) (name : String) : Except EvalError Value :=
  let unbound := EvalError.unbound (target.kindName ++ "." ++ name)
  match target with
  | .object fields =>
    match Assoc.find? name fields with
    | some v => .ok v
    | none => .error unbound
  | _ => .error unbound

/-- The character with a code, if the code is a Unicode scalar value. -/
def charOfCode? (code : Int) : Option Char :=
  if code < 0 then none
  else if h : code.toNat.isValidChar then some (Char.ofNatAux code.toNat h)
  else none

/-- A double without its fraction, as an integer of 32 bits. -/
def doubleToInt32 (x : Float) : Except EvalError Value :=
  match (Reading.ofDouble x).toInt? .towardZero >>= int32? with
  | some n => .ok (.int n)
  | none => .error (.failed (.int32Overflow x))

/-- A double without its fraction, as an integer of 64 bits. -/
def doubleToInt64 (x : Float) : Except EvalError Value :=
  match (Reading.ofDouble x).toInt? .towardZero >>= int64? with
  | some n => .ok (.long n)
  | none => .error (.failed (.int64Overflow x))

/-- Converts null: only the types that have a null take it. -/
def convertNull : Ty → Except EvalError Value
  | .nullable _ | .object _ | .string => .ok .null
  | ty => .error (.failed (.nullConversion ty))

/-- Converts a value to a type. Numbers go from one number type to another,
to an integer type without their fraction; integers to characters; and any
value to a record type or its own. -/
def convert (value : Value) (ty : Ty) : Except EvalError Value :=
  if value.isNull then convertNull ty
  else
    let unbound :=
      EvalError.unbound ("Convert(" ++ value.kindName ++ ", " ++ ty.text ++ ")")
    let ofDouble (f : Float → Except EvalError Value) :=
      match value.toDouble? with
      | some x => f x
      | none => .error unbound
    match ty.underlying with
    | .int32 => ofDouble doubleToInt32
    | .int64 =>
      match value.toInt? with
      | some n => .ok (.long n)
      | none => ofDouble doubleToInt64
    | .double => ofDouble fun x => .ok (.double x)
    | .single => ofDouble fun x => .ok (.single (Double.toSingle x))
    | .decimal => ofDouble fun x => .ok (.decimal x)
    | .char =>
      match value.toInt? with
      | some code =>
        match charOfCode? code.toInt with
        | some c => .ok (.char c)
        | none => .error (.failed (.characterCode code))
      | none => .error unbound
    | .object _ => .ok value
    | target => if target = value.type then .ok value else .error unbound

end FilterCriteria.Value
