/-
Why an expression has no criterion.
-/
import FilterCriteria.Eval.Error
import FilterCriteria.Expr.Text

namespace FilterCriteria

/-- Why an expression has no criterion. -/
inductive CompileError where
  /-- The expression as a whole has no rule. -/
  | expression (e : Expr)
  | binaryOperator (op : Expr.BinaryOp)
  | unaryOperator (op : Expr.UnaryOp)
  | conversion (source target : Ty)
  | method (name : String)
  | trimArguments
  /-- What is looked in is a constant, but not a sequence. -/
  | containsValue (v : Value)
  /-- What is looked in is not constant. -/
  | containsSource (e : Expr)
  | arrayElement (e : Expr)
  | construction (e : Expr)
  | notCollection (e : Expr)
  /-- The evaluation of a constant part failed. -/
  | evaluation (what : String) (error : EvalError)
  | outOfScope (p : Param)

namespace CompileError

-- =============================================================== kinds

/-- The kinds of errors that callers tell apart. -/
inductive Kind where
  | expressionNotSupported
  | conversionNotSupported
  | methodNotSupported
  | trimArgumentsNotSupported
  | containsRequiresArray
  | arrayInitRequiresConstant
  | newNotSupported
  | collectionPropertyAbsent
  | evaluation
  | parameterOutOfScope
deriving DecidableEq

def Kind.name : Kind → String
  | .expressionNotSupported => "ExpressionNotSupported"
  | .conversionNotSupported => "ConversionNotSupported"
  | .methodNotSupported => "MethodNotSupported"
  | .trimArgumentsNotSupported => "TrimArgumentsNotSupported"
  | .containsRequiresArray => "ContainsRequiresArray"
  | .arrayInitRequiresConstant => "ArrayInitRequiresConstant"
  | .newNotSupported => "NewNotSupported"
  | .collectionPropertyAbsent => "CollectionPropertyAbsent"
  | .evaluation => "Evaluation"
  | .parameterOutOfScope => "ParameterOutOfScope"

def kind : CompileError → Kind
  | .expression _ | .binaryOperator _ | .unaryOperator _ =>
    .expressionNotSupported
  | .conversion _ _ => .conversionNotSupported
  | .method _ => .methodNotSupported
  | .trimArguments => .trimArgumentsNotSupported
  | .containsValue _ | .containsSource _ => .containsRequiresArray
  | .arrayElement _ => .arrayInitRequiresConstant
  | .construction _ => .newNotSupported
  | .notCollection _ => .collectionPropertyAbsent
  | .evaluation _ _ => .evaluation
  | .outOfScope _ => .parameterOutOfScope

-- ============================================================= reports

/-- The message about an expression or an operator without a rule. -/
def unsupportedMessage (what : String) : String :=
  "The expression '" ++ what ++ "' is not supported."

/-- The message about a source of elements that is not constant. -/
def notArrayMessage (what : String) : String :=
  "Contains requires an array of constants, got '" ++ what ++ "'."

def message : CompileError → String
  | .expression e => unsupportedMessage e.text
  | .binaryOperator op => unsupportedMessage op.name
  | .unaryOperator op => unsupportedMessage op.name
  | .conversion source target =>
    "Conversion from '" ++ source.text ++ "' to '" ++ target.text
      ++ "' is not supported."
  | .method name => "The method '" ++ name ++ "' is not supported."
  | .trimArguments => "Only the parameterless Trim method is supported."
  | .containsValue v => notArrayMessage v.text
  | .containsSource e => notArrayMessage e.text
  | .arrayElement e =>
    "Array initializer requires constant elements, got '" ++ e.text ++ "'."
  | .construction e =>
    "The construction '" ++ e.text
      ++ "' is not supported; arguments must be constants."
  | .notCollection e => "'" ++ e.text ++ "' is not a collection property."
  | .evaluation what error =>
    "Evaluating '" ++ what ++ "' failed: " ++ error.message
  | .outOfScope p => "The parameter '" ++ p.name ++ "' is not in scope."

/-- The component that raises the error. -/
def issuer : CompileError → String
  | .expression _ | .binaryOperator _ | .unaryOperator _ => "criteria.lower"
  | .conversion _ _ => "criteria.lower.operator"
  | .method _ | .trimArguments | .containsValue _ | .containsSource _ =>
    "criteria.lower.call"
  | .arrayElement _ | .construction _ => "criteria.lower.objects"
  | .notCollection _ => "criteria.lower.aggregate"
  | .evaluation _ _ => "criteria.eval"
  | .outOfScope _ => "criteria.lower.scope"

def report (e : CompileError) : Report :=
  ⟨.error, e.issuer, e.message⟩

end CompileError

end FilterCriteria
