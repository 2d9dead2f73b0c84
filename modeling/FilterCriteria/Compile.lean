/-
From expressions to criteria. The parameter of the outermost lambda stands
for the record in question, and those of inner lambdas for the elements of
its collections; what has no parameter is evaluated on the way.

A rule for a kind of expression is a function of what its parts compile to,
errors included, so that the order in which errors show is the order in
which a rule asks for its parts.
-/
import FilterCriteria.Compile.Error
import FilterCriteria.Compile.Names
import FilterCriteria.Compile.Reduction
import FilterCriteria.Compile.Scope
import FilterCriteria.Eval.Evaluator
import FilterCriteria.Registry

namespace FilterCriteria

/-- What compilation depends on besides the expression. -/
structure Environment where
  registry : Registry
  evaluator : Evaluator

namespace Compile

/-- What an expression compiles to: a criterion, or the reason that there
is none. -/
abbrev Result := Except CompileError Criterion

/-- The criteria of several results, or the first error. -/
def inOrder : List Result → Except CompileError (List Criterion)
  | [] => .ok []
  | r :: rest => do
    let c ← r
    pure (c :: (← inOrder rest))

-- =========================================================== constants

/-- The value of an expression that is constant. -/
def fold (env : Environment) (e : Expr) :
    Except CompileError (Option Value) :=
  match e.fold env.evaluator with
  | .ok v => .ok v
  | .error error => .error (.evaluation e.text error)

/-- The literal that an expression folds to, or what it is otherwise. -/
def foldedOr (env : Environment) (e : Expr) (otherwise : Result) : Result := do
  match ← fold env e with
  | some v => pure (.literal v)
  | none => otherwise

-- ============================================================= members

/-- The property that a member of a parameter stands for. -/
def paramMember (scope : Scope) (p : Param) (name : String) : Result :=
  match scope.path? p with
  | some path => .ok (.property (path ++ name))
  | none => .error (.outOfScope p)

/-- A member lengthens the path of a property, and is projected out of the
single element of a collection. -/
def memberOf (e : Expr) (name : String) : Criterion → Result
  | .property path => .ok (.property (path ++ "." ++ name))
  | .aggregate collection .single expression condition =>
    let r : Reduction := ⟨collection, .single, expression, condition⟩
    .ok (r.projectMember name).toCriterion
  | _ => .error (.expression e)

/-- The member of an object. -/
def member (env : Environment) (scope : Scope) (e object : Expr)
    (name : String) (compiled : Result) : Result :=
  match object, memberFunction? object.type name with
  | .param p _, _ => paramMember scope p name
  | _, some f => do pure (.builtin f [← compiled])
  | _, none =>
    if object.isClosed then foldedOr env e (.error (.expression e))
    else do memberOf e name (← compiled)

-- =========================================================== operators

/-- A binary operator. The first of two values that is not null is a
choice. -/
def binary (op : Expr.BinaryOp) (left right : Result) : Result :=
  if op = .coalesce then do
    let left ← left
    let right ← right
    pure (.builtin .iif [left.isNull, right, left])
  else
    match binaryOperator? op with
    | some target => do pure (.binary target (← left) (← right))
    | none => .error (.binaryOperator op)

/-- A cast. One that leaves the value as it is leaves no trace. -/
def cast (env : Environment) (e : Expr) (source target : Ty)
    (compiled : Result) : Result :=
  if isReferenceCast source target then compiled
  else
    foldedOr env e <|
      match castFunction? target with
      | some f => do pure (.builtin f [← compiled])
      | none => .error (.conversion source target)

/-- A unary operator. The complement of what is no truth value is taken bit
by bit. -/
def unary (env : Environment) (e : Expr) (op : Expr.UnaryOp) (source ty : Ty)
    (compiled : Result) : Result :=
  match op with
  | .not => do
    pure (.unary (if ty.isBool then .not else .bitwiseNot) (← compiled))
  | .negate => do pure (.unary .minus (← compiled))
  | .quote => compiled
  | .convert => cast env e source ty compiled
  | .unaryPlus | .arrayLength | .typeAs => .error (.unaryOperator op)

/-- The branches of a conditional from its alternative on. Those of an
alternative that is a conditional itself go on in the same list. -/
def branches (alternative : Expr) (compiled : Criterion) : List Criterion :=
  match alternative, compiled with
  | .conditional .., .function _ operands => operands
  | _, c => [c]

/-- A conditional. -/
def conditional (alternative : Expr) (test yes no : Result) : Result := do
  let test ← test
  let yes ← yes
  let no ← no
  pure (.builtin .iif (test :: yes :: branches alternative no))

-- =============================================================== calls

/-- The function of a method: a built-in one, or one that is registered. -/
def function (env : Environment) (method : String) :
    Except CompileError Criterion.Function :=
  match methodFunction? method with
  | some f => .ok (.builtin f)
  | none =>
    if env.registry.contains method then .ok (.custom method)
    else .error (.method method)

/-- A search for a text in the receiver, whose place is the second. -/
def indexOf (e : Expr) : (receiver : Option Result) → List Result → Result
  | some receiver, probe :: rest => do
    let probe ← probe
    let receiver ← receiver
    pure (.builtin .charIndex (probe :: receiver :: (← inOrder rest)))
  | _, _ => .error (.expression e)

/-- A call of a function, with the receiver as its first operand. -/
def functionCall (env : Environment) (e : Expr) (name : String)
    (receiver : Option Result) (args : List Result) : Result :=
  if name = "IndexOf" then indexOf e receiver args
  else if name = "Trim" ∧ !args.isEmpty then .error .trimArguments
  else do
    let f ← function env name
    pure (.function f (← inOrder (receiver.toList ++ args)))

/-- The test whether a value is an element of a constant sequence. -/
def membership (source : Expr) (probe : Criterion) : Criterion → Result
  | .literal v =>
    match v.elements? with
    | some items => .ok (.within probe (items.map .literal))
    | none => .error (.containsValue v)
  | _ => .error (.containsSource source)

/-- The call of the test for an element. -/
def membershipCall (e : Expr) : List Expr → List Result → Result
  | [source, _], [compiled, probe] => do
    let probe ← probe
    membership source probe (← compiled)
  | _, _ => .error (.expression e)

/-- The aggregate that a collection has become so far. -/
def reduction (source : Expr) (compiled : Criterion) :
    Except CompileError Reduction :=
  match Reduction.ofCriterion? compiled with
  | some r => .ok r
  | none => .error (.notCollection source)

/-- The next step of an aggregate, with the lambda in its role. -/
def nextStep (kind : Criterion.Aggregate) (role : LambdaRole)
    (lambda : Option Criterion) (r : Reduction) : Criterion :=
  let r := r.withKind kind
  match role with
  | .projection => (r.project lambda).toCriterion
  | .condition => ((r.project none).filter lambda).toCriterion

/-- A result that there may be none of. -/
def optional : Option Result → Except CompileError (Option Criterion)
  | none => .ok none
  | some r => r.map some

/-- The call of a method that makes an aggregate. The collection is the
first argument, and the second one, if there is one, a lambda. -/
def aggregateCall (e : Expr) (kind : Criterion.Aggregate) (role : LambdaRole) :
    List Expr → List Result → Result
  | source :: _, compiled :: rest => do
    let r ← reduction source (← compiled)
    pure (nextStep kind role (← optional rest.head?) r)
  | _, _ => .error (.expression e)

/-- The call of a method on a sequence. A method that makes no aggregate is
a function like any other. -/
def sequenceCall (env : Environment) (e : Expr) (name : String)
    (receiver : Option Result) (args : List Expr) (compiled : List Result) :
    Result :=
  if name = "Contains" ∧ receiver.isNone then membershipCall e args compiled
  else
    match sequenceMethod? name with
    | some (kind, role) => aggregateCall e kind role args compiled
    | none => functionCall env e name receiver compiled

/-- A call, with what its receiver and its arguments compile to. -/
def call (env : Environment) (e : Expr) (method : Method)
    (receiver : Option Result) (args : List Expr) (compiled : List Result) :
    Result :=
  foldedOr env e <|
    if method.onSequence then
      sequenceCall env e method.name receiver args compiled
    else functionCall env e method.name receiver compiled

-- =============================================================== arrays

/-- The values of the elements of an array, all of which have to be
literals. -/
def elementValues : List Expr → List Result → Except CompileError (List Value)
  | e :: es, r :: rs => do
    match ← r with
    | .literal v => pure (v :: (← elementValues es rs))
    | _ => throw (.arrayElement e)
  | _, _ => .ok []

end Compile

-- ========================================================= compilation

namespace Expr

mutual

/-- The criterion of an expression inside the lambdas of the scope. -/
def compileIn (env : Environment) (scope : Scope) : Expr → Compile.Result
  | .constant v _ => .ok (.literal v)
  | .param p ty => .error (.expression (.param p ty))
  | .staticMember owner name ty =>
    let e := Expr.staticMember owner name ty
    Compile.foldedOr env e (.error (.expression e))
  | .member object name ty =>
    Compile.member env scope (.member object name ty) object name
      (object.compileIn env scope)
  | .binary op left right _ =>
    Compile.binary op (left.compileIn env scope) (right.compileIn env scope)
  | .unary op operand ty =>
    Compile.unary env (.unary op operand ty) op operand.type ty
      (operand.compileIn env scope)
  | .call method args ty =>
    Compile.call env (.call method args ty) method none args
      (compileEach env scope args)
  | .callOn receiver method args ty =>
    Compile.call env (.callOn receiver method args ty) method
      (some (receiver.compileIn env scope)) args (compileEach env scope args)
  | .conditional test ifTrue ifFalse _ =>
    Compile.conditional ifFalse (test.compileIn env scope)
      (ifTrue.compileIn env scope) (ifFalse.compileIn env scope)
  | .construct args ty =>
    let e := Expr.construct args ty
    Compile.foldedOr env e (.error (.construction e))
  | .newArray elements _ => do
    let compiled := compileEach env scope elements
    pure (.literal (.array (← Compile.elementValues elements compiled)))
  | .lambda params body ty =>
    match params with
    | [p] => body.compileIn env (scope.enter p)
    | params => .error (.expression (.lambda params body ty))
  | .other name operands ty => .error (.expression (.other name operands ty))
termination_by structural e => e

/-- What each of several expressions compiles to. -/
def compileEach (env : Environment) (scope : Scope) :
    List Expr → List Compile.Result
  | [] => []
  | e :: rest => e.compileIn env scope :: compileEach env scope rest
termination_by structural es => es

end

/-- The criterion of an expression. -/
def compile (env : Environment) (e : Expr) : Compile.Result :=
  e.compileIn env .empty

end Expr

end FilterCriteria
