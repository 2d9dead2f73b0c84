/-
The functions of the type `Math`. They compute in double precision; what
they return keeps the number type of the first argument where the function
has an overload for it.
-/
import FilterCriteria.Host.Argument

namespace FilterCriteria.Host

-- ======================================================== number types

/-- A double as a number of the type of `template`, which stays a double if
that is no number type. -/
def numberLike (template : Value) (x : Float) : Except EvalError Value :=
  match template with
  | .int _ | .long _ => (Value.double x).convert template.type
  | .single _ => .ok (.single (Double.toSingle x))
  | .decimal _ => .ok (.decimal x)
  | _ => .ok (.double x)

/-- A double as a decimal if `template` is one. -/
def decimalLike (template : Value) (x : Float) : Value :=
  match template with
  | .decimal _ => .decimal x
  | _ => .double x

-- =========================================================== functions

/-- The functions from doubles to doubles. -/
def elementary? (name : String) : Option (Float → Float) :=
  match name with
  | "Sqrt" => some Float.sqrt
  | "Sin" => some Float.sin
  | "Cos" => some Float.cos
  | "Tan" => some Float.tan
  | "Asin" => some Float.asin
  | "Acos" => some Float.acos
  | "Atan" => some Float.atan
  | "Sinh" => some Float.sinh
  | "Cosh" => some Float.cosh
  | "Tanh" => some Float.tanh
  | "Exp" => some Float.exp
  | "Log10" => some Float.log10
  | _ => none

/-- The absolute value. The least integer of a width has none. -/
def absolute (value : Value) : Except EvalError Value :=
  match value with
  | .int n => orFail .negatedMinimum ((int32? n.toInt.natAbs).map .int)
  | .long n => orFail .negatedMinimum ((int64? n.toInt.natAbs).map .long)
  | v => do numberLike v (← number [v] 0).abs

/-- Rounds to so many decimal places, a half to the even digit of the
scaled number. -/
def roundPlaces (x : Float) (places : Nat) : Float :=
  let scale := Double.ofInt (Nat.pow 10 places)
  Double.rounded .halfEven (x * scale) / scale

/-- The number of decimal places to round to. -/
def places (args : List Value) (index : Nat) : Except EvalError Nat := do
  let n ← integer args index
  if 0 ≤ n ∧ n ≤ 15 then pure n.toNat else .error (.failed .roundingDigits)

/-- The sign of a number. -/
def signOf (x : Float) : Except EvalError Value :=
  if x.isNaN then .error (.failed .signOfNaN)
  else if Double.less 0 x then .ok (.int 1)
  else if Double.less x 0 then .ok (.int (-1))
  else .ok (.int 0)

/-- Rounds the only argument. -/
def roundFirst (mode : Rounding) (args : List Value) :
    Except EvalError Value := do
  let x ← number args 0
  pure (decimalLike (args.headD .null) (Double.rounded mode x))

/-- Calls a function of `Math`. -/
def callMath (name : String) (args : List Value) : Except EvalError Value :=
  match elementary? name with
  | some f => do
    arity name args [1]
    pure (.double (f (← number args 0)))
  | none =>
    match name with
    | "Abs" => do
      arity name args [1]
      absolute (args.headD .null)
    | "Max" => do
      arity name args [2]
      let a ← number args 0
      let b ← number args 1
      numberLike (args.headD .null) (Double.max a b)
    | "Min" => do
      arity name args [2]
      let a ← number args 0
      let b ← number args 1
      numberLike (args.headD .null) (Double.min a b)
    | "Pow" => do
      arity name args [2]
      let a ← number args 0
      pure (.double (a.pow (← number args 1)))
    | "Atan2" => do
      arity name args [2]
      let a ← number args 0
      pure (.double (a.atan2 (← number args 1)))
    | "Log" => do
      arity name args [1, 2]
      let x ← number args 0
      if args.length = 1 then pure (.double x.log)
      else pure (.double (x.log / (← number args 1).log))
    | "Floor" => do
      arity name args [1]
      roundFirst .down args
    | "Ceiling" => do
      arity name args [1]
      roundFirst .up args
    | "Truncate" => do
      arity name args [1]
      roundFirst .towardZero args
    | "Round" => do
      arity name args [1, 2]
      if args.length = 1 then roundFirst .halfEven args
      else
        let x ← number args 0
        pure (decimalLike (args.headD .null) (roundPlaces x (← places args 1)))
    | "Sign" => do
      arity name args [1]
      signOf (← number args 0)
    | "BigMul" => do
      arity name args [2]
      let a ← integer args 0
      let b ← integer args 1
      orFail .productOverflow ((int64? (a * b)).map .long)
    | _ => .error (.unbound ("Math." ++ name))

end FilterCriteria.Host
