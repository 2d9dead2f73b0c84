/-
Arguments of calls: how many there are and what they are. Arguments are
named by their place, counted from 0.
-/
import FilterCriteria.Eval.Conversion

namespace FilterCriteria.Host

/-- A call with the wrong number of arguments has no binding. -/
def arity (name : String) (args : List Value) (counts : List Nat) :
    Except EvalError Unit :=
  if counts.contains args.length then .ok ()
  else
    .error (.unbound (name ++ " with " ++ padded 0 args.length
      ++ " argument(s)"))

/-- What an argument is when `view` looks at it, or the failure that it is
not that. -/
def argument {α : Type} (view : Value → Option α) (failure : Nat → Failure)
    (args : List Value) (index : Nat) : Except EvalError α :=
  match args[index]? >>= view with
  | some a => .ok a
  | none => .error (.failed (failure index))

def number : List Value → Nat → Except EvalError Float :=
  argument Value.toDouble? .notNumber

def integer (args : List Value) (index : Nat) : Except EvalError Int :=
  (argument Value.toInt? .notInteger args index).map Int64.toInt

def text : List Value → Nat → Except EvalError String :=
  argument Value.toString? .notText

/-- A value that is a time span. -/
def timeSpan? : Value → Option TimeSpan
  | .timeSpan t => some t
  | _ => none

def timeSpan : List Value → Nat → Except EvalError TimeSpan :=
  argument timeSpan? .notTimeSpan

/-- An optional result, or the failure that there is none. -/
def orFail {α : Type} (failure : Failure) : Option α → Except EvalError α
  | some a => .ok a
  | none => .error (.failed failure)

end FilterCriteria.Host
