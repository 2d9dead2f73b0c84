/-
Evaluators, and the folding of constant expressions with one. An evaluator
knows the members of the host's types; folding asks it about literal values
only.
-/
import FilterCriteria.Eval.Conversion
import FilterCriteria.Expr

namespace FilterCriteria

/-- What evaluates the members of literal values. -/
structure Evaluator where
  /-- Calls a method, on a receiver or on its type. -/
  call : Method → Option Value → List Value → Except EvalError Value
  /-- Reads a member of a type. -/
  readStatic : (owner member : String) → Except EvalError Value
  /-- Makes an object of a type. -/
  construct : Ty → List Value → Except EvalError Value
  /-- Reads a member of a value. -/
  readMember : Value → String → Except EvalError Value := Value.readField
  /-- Converts a value to a type. -/
  convert : Value → Ty → Except EvalError Value := Value.convert

/-- The evaluator that has no bindings. It reads the fields of objects and
converts values. -/
def Evaluator.bare : Evaluator where
  call method _ _ := .error (.unbound method.name)
  readStatic owner _ := .error (.unbound owner)
  construct ty _ := .error (.unbound ty.text)

/-- What has no binding is not a constant; other errors stay. -/
def settle : Except EvalError Value → Except EvalError (Option Value)
  | .ok v => .ok (some v)
  | .error e => if e.isUnbound then .ok none else .error e

namespace Expr

mutual

/-- The value of a constant expression, or `none` if it is not one: it has
a parameter, or an operator that is never evaluated, or something that the
evaluator has no binding for. -/
def fold (ev : Evaluator) : Expr → Except EvalError (Option Value)
  | .constant v _ => .ok (some v)
  | .staticMember owner name _ => settle (ev.readStatic owner name)
  | .member object name _ => do
    match ← object.fold ev with
    | some v => settle (ev.readMember v name)
    | none => pure none
  | .call method args _ => do
    match ← foldAll ev args with
    | some vs => settle (ev.call method none vs)
    | none => pure none
  | .callOn receiver method args _ => do
    match ← receiver.fold ev with
    | some v =>
      match ← foldAll ev args with
      | some vs => settle (ev.call method (some v) vs)
      | none => pure none
    | none => pure none
  | .construct args ty => do
    match ← foldAll ev args with
    | some vs => settle (ev.construct ty vs)
    | none => pure none
  | .newArray elements _ => do
    match ← foldAll ev elements with
    | some vs => pure (some (.array vs))
    | none => pure none
  | .unary .convert operand ty => do
    match ← operand.fold ev with
    | some v => settle (ev.convert v ty)
    | none => pure none
  | _ => .ok none
termination_by structural e => e

/-- The values of constant expressions, up to the first that is not one. -/
def foldAll (ev : Evaluator) : List Expr → Except EvalError (Option (List Value))
  | [] => .ok (some [])
  | e :: rest => do
    match ← e.fold ev with
    | some v =>
      match ← foldAll ev rest with
      | some vs => pure (some (v :: vs))
      | none => pure none
    | none => pure none
termination_by structural es => es

end

end Expr

end FilterCriteria
