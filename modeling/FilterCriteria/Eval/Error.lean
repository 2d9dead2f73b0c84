/-
Errors of evaluation. What an evaluator has no binding for is not an error
of the program that is evaluated; everything else is a failure.
-/
import FilterCriteria.Number.Text
import FilterCriteria.Report
import FilterCriteria.Ty

namespace FilterCriteria

/-- Why an evaluation failed. -/
inductive Failure where
  | notNumber (index : Nat)
  | notInteger (index : Nat)
  | notText (index : Nat)
  | notTimeSpan (index : Nat)
  | nullConversion (target : Ty)
  | int32Overflow (x : Float)
  | int64Overflow (x : Float)
  | characterCode (code : Int64)
  | lengthOverflow (length : Nat)
  | negatedMinimum
  | roundingDigits
  | signOfNaN
  | productOverflow
  | spanTooLong
  | dateOutOfRange
  | invalidDate
  | invalidTime
  | invalidOleDate
  | invalidFileTime
  | substringRange
  | likeOperands
  /-- A cause in words. -/
  | stated (message : String)

/-- The wording of a failure. -/
def Failure.message : Failure → String
  | .notNumber i => "Argument " ++ padded 0 i ++ " is not a number."
  | .notInteger i => "Argument " ++ padded 0 i ++ " is not an integer."
  | .notText i => "Argument " ++ padded 0 i ++ " is not a string."
  | .notTimeSpan i => "Argument " ++ padded 0 i ++ " is not a TimeSpan."
  | .nullConversion ty => "Cannot convert null to " ++ ty.text ++ "."
  | .int32Overflow x => "Value " ++ Double.text x ++ " overflows Int32."
  | .int64Overflow x => "Value " ++ Double.text x ++ " overflows Int64."
  | .characterCode n => intText n.toInt ++ " is not a valid character code."
  | .lengthOverflow n => "Length " ++ padded 0 n ++ " overflows Int32."
  | .negatedMinimum =>
    "Negating the minimum value of a twos complement number is invalid."
  | .roundingDigits =>
    "Rounding digits must be between 0 and 15, inclusive."
  | .signOfNaN =>
    "Function does not accept floating point Not-a-Number values."
  | .productOverflow => "Arithmetic operation resulted in an overflow."
  | .spanTooLong => "TimeSpan overflowed because the duration is too long."
  | .dateOutOfRange =>
    "The added or subtracted value results in an un-representable DateTime."
  | .invalidDate =>
    "Year, Month, and Day parameters describe an un-representable DateTime."
  | .invalidTime =>
    "Hour, Minute, and Second parameters describe an un-representable "
      ++ "DateTime."
  | .invalidOleDate => "Not a legal OleAut date."
  | .invalidFileTime => "Not a valid Win32 FileTime."
  | .substringRange =>
    "Index and length must refer to a location within the string."
  | .likeOperands => "Like expects two string operands."
  | .stated message => message

/-- An error of evaluation. -/
inductive EvalError where
  /-- There is no binding for a member, a method or a constructor. -/
  | unbound (what : String)
  /-- There is a binding, and it failed. -/
  | failed (cause : Failure)
  /-- An error with a report of its own, which may count as the lack of a
  binding. -/
  | raised (unbound : Bool) (report : Report)

namespace EvalError

def isUnbound : EvalError → Bool
  | .unbound _ => true
  | .failed _ => false
  | .raised b _ => b

/-- The component that evaluates. -/
def issuer : String := "criteria.eval"

def report : EvalError → Report
  | .unbound what =>
    ⟨.info, issuer, "No evaluator binding for '" ++ what ++ "'."⟩
  | .failed cause => ⟨.error, issuer, cause.message⟩
  | .raised _ report => report

def message (e : EvalError) : String :=
  e.report.message

end EvalError

end FilterCriteria
