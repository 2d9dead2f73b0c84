/-
What expressions and criteria mean over records, each side by its own
rules. An expression names records by the parameters of its lambdas, a
criterion by the number of collections around it; both ask one
interpretation about data, so that a comparison of the two meanings is a
comparison of scopes, chains of filters and branches, and of nothing else.

# Interpretations

An interpretation says what data there is: how a member of a record is read,
what the elements of a collection are, what an operator does and how a
sequence is reduced to one value. One law is asked of it, that a conjunction
holds when both of its sides do; without it two filters in a row would not be
one. So the statements hold for data of every kind, missing records included.

# The fragment

Not every expression that compiles has a meaning here. `Query` says which do:
the paths, filters, reductions, operators and conditionals, with lambdas in
the places where elements are gone through, each in the role in which it may
stand. A name in a path has to be plain (`PlainName`), as a dot in it would
be taken for two members.

The main statement about the two, that compilation keeps the meaning, is
in `Compile.Simulation`.
-/
import FilterCriteria.Compile

namespace FilterCriteria

-- ===================================================== interpretations

/-- The operations on two data, under neutral names. -/
inductive Operation where
  | conjunction
  | disjunction
  | equality
  | inequality
  | above
  | atLeast
  | below
  | atMost
  | commonBits
  | anyBits
  | differingBits
  | sum
  | difference
  | product
  | quotient
  | remainder
deriving DecidableEq

/-- What is made of the elements that are kept of a collection. -/
inductive Reducer where
  | existence
  | number
  | total
  | least
  | greatest
  | mean
deriving DecidableEq

/-- Is the lambda of a reduction a condition on the elements? That of the
others says what is reduced. -/
def Reducer.filters : Reducer → Bool
  | .existence | .number => true
  | .total | .least | .greatest | .mean => false

/-- A reading of data: a type for records, collections and values alike,
with any functions on it for what expressions and criteria are made of. The
one law is that a conjunction holds when both of its sides do. -/
structure Interpretation (D : Type) where
  /-- What stands for a record that there is not. -/
  undefined : D
  literal : Value → D
  field : D → String → D
  elements : D → List D
  /-- Does a datum count as true? -/
  holds : D → Bool
  binary : Operation → D → D → D
  negation : D → D
  complement : D → D
  opposite : D → D
  identity : D → D
  nullity : D → D
  reduce : Reducer → List D → D
  /-- The only element. -/
  single : List D → D
  call : Criterion.Function → List D → D
  among : D → List D → D
  holds_conjunction : ∀ a b,
    holds (binary .conjunction a b) = (holds a && holds b)

namespace Interpretation

variable {D : Type} (I : Interpretation D)

/-- The datum that a chain of names leads to. -/
def follow (names : List Char) (d : D) : D :=
  (names.splitOn '.').foldl (fun d name => I.field d (String.ofList name)) d

/-- The datum at a path, given the records around, the innermost first. A
marker leaves the innermost one; what comes after the markers is a chain of
names. -/
def atPath : List D → List Char → D
  | stack, '^' :: '.' :: rest => atPath stack.tail rest
  | stack, names => I.follow names (stack.headD I.undefined)

/-- The branch of the first test that holds, or the last datum if none
does. -/
def choose : List D → D
  | [] => I.undefined
  | [otherwise] => otherwise
  | test :: branch :: rest => if I.holds test then branch else choose rest

/-- A function of the criteria language. Choice is the one whose meaning
matters here. -/
def apply (f : Criterion.Function) (operands : List D) : D :=
  if f = .builtin .iif then I.choose operands else I.call f operands

end Interpretation

-- ================================================ meaning of criteria

namespace Criterion

/-- The operation of a criteria operator. -/
def BinaryOp.operation : BinaryOp → Operation
  | .and => .conjunction
  | .or => .disjunction
  | .equal => .equality
  | .notEqual => .inequality
  | .greater => .above
  | .greaterOrEqual => .atLeast
  | .less => .below
  | .lessOrEqual => .atMost
  | .bitwiseAnd => .commonBits
  | .bitwiseOr => .anyBits
  | .bitwiseXor => .differingBits
  | .plus => .sum
  | .minus => .difference
  | .multiply => .product
  | .divide => .quotient
  | .modulo => .remainder

variable {D : Type} (I : Interpretation D)

/-- A criteria operator with one operand. -/
def UnaryOp.meaning : UnaryOp → D → D
  | .not => I.negation
  | .bitwiseNot => I.complement
  | .minus => I.opposite
  | .plus => I.identity
  | .isNull => I.nullity

/-- An aggregate of a list of data. -/
def Aggregate.meaning : Aggregate → List D → D
  | .any => I.reduce .existence
  | .count => I.reduce .number
  | .max => I.reduce .greatest
  | .min => I.reduce .least
  | .avg => I.reduce .mean
  | .sum => I.reduce .total
  | .single => I.single

mutual

/-- The meaning of a criterion, given the records around it, the innermost
first. The condition and the expression of an aggregate are about an
element, which becomes the innermost record. -/
def meaning : Criterion → List D → D
  | .property path, stack => I.atPath stack path.toList
  | .literal v, _ => I.literal v
  | .binary op left right, stack =>
    I.binary op.operation (left.meaning stack) (right.meaning stack)
  | .unary op operand, stack => op.meaning I (operand.meaning stack)
  | .function f operands, stack => I.apply f (meanings operands stack)
  | .aggregate collection kind expression condition, stack =>
    let all := I.elements (I.atPath stack collection.toList)
    let kept := all.filter fun x => admits condition (x :: stack)
    kind.meaning I (kept.map fun x => projected expression x stack)
  | .within probe values, stack =>
    I.among (probe.meaning stack) (meanings values stack)
termination_by structural c => c

def meanings : List Criterion → List D → List D
  | [], _ => []
  | c :: rest, stack => c.meaning stack :: meanings rest stack
termination_by structural cs => cs

/-- Does an element meet a condition? Where there is none, it does. -/
def admits : Option Criterion → List D → Bool
  | none, _ => true
  | some c, stack => I.holds (c.meaning stack)
termination_by structural c => c

/-- What is made of an element before the aggregate. -/
def projected : Option Criterion → D → List D → D
  | none, x, _ => x
  | some c, x, stack => c.meaning (x :: stack)
termination_by structural c => c

end

end Criterion

-- ============================================= meaning of expressions

namespace Expr

/-- The operation of an operator that has one for any two data. -/
def BinaryOp.operation? : BinaryOp → Option Operation
  | .andAlso => some .conjunction
  | .orElse => some .disjunction
  | .equal => some .equality
  | .notEqual => some .inequality
  | .greaterThan => some .above
  | .greaterThanOrEqual => some .atLeast
  | .lessThan => some .below
  | .lessThanOrEqual => some .atMost
  | .and => some .commonBits
  | .or => some .anyBits
  | .exclusiveOr => some .differingBits
  | .add => some .sum
  | .subtract => some .difference
  | .multiply => some .product
  | .divide => some .quotient
  | .modulo => some .remainder
  | .coalesce | .leftShift | .rightShift | .power | .arrayIndex => none

/-- The reduction of a method on sequences. -/
def reducer? : String → Option Reducer
  | "Any" => some .existence
  | "Count" => some .number
  | "Sum" => some .total
  | "Min" => some .least
  | "Max" => some .greatest
  | "Average" => some .mean
  | _ => none

variable {D : Type} (I : Interpretation D)

/-- The record of a parameter: that of its innermost entry. -/
def recordOf (p : Param) : List (Param × D) → D
  | [] => I.undefined
  | (q, x) :: rest => if p.same q then x else recordOf p rest

/-- An operator with two operands. -/
def BinaryOp.meaning (op : BinaryOp) (a b : D) : D :=
  match op.operation? with
  | some f => I.binary f a b
  | none =>
    if op = .coalesce then if I.holds (I.nullity a) then b else a
    else I.undefined

/-- An operator with one operand. -/
def UnaryOp.meaning (op : UnaryOp) (ty : Ty) (a : D) : D :=
  match op with
  | .not => if ty.isBool then I.negation a else I.complement a
  | .negate => I.opposite a
  | _ => I.undefined

mutual

/-- The meaning of an expression, given the records of the parameters in
scope, the innermost first. -/
def meaning : Expr → List (Param × D) → D
  | .param p _, env => recordOf I p env
  | .constant v _, _ => I.literal v
  | .member object name _, env => I.field (object.meaning env) name
  | .binary op left right _, env =>
    op.meaning I (left.meaning env) (right.meaning env)
  | .unary op operand ty, env => op.meaning I ty (operand.meaning env)
  | .conditional test ifTrue ifFalse _, env =>
    if I.holds (test.meaning env) then ifTrue.meaning env
    else ifFalse.meaning env
  | .call method [source] _, env =>
    match reducer? method.name with
    | some r => I.reduce r (source.elements env)
    | none => I.undefined
  | .call method [source, selector] _, env =>
    match reducer? method.name with
    | some r =>
      let of := fun x => selector.applied x env
      if r.filters then
        I.reduce r ((source.elements env).filter fun x => I.holds (of x))
      else I.reduce r ((source.elements env).map of)
    | none => I.undefined
  | _, _ => I.undefined
termination_by structural e => e

/-- The elements of a collection: those of a member, or those that a filter
keeps of another collection. -/
def elements : Expr → List (Param × D) → List D
  | .member object name _, env => I.elements (I.field (object.meaning env) name)
  | .call method [source, selector] _, env =>
    if method.name = "Where" then
      (source.elements env).filter fun x => I.holds (selector.applied x env)
    else []
  | _, _ => []
termination_by structural e => e

/-- The meaning of a lambda for an element, whatever quotes it. -/
def applied : Expr → D → List (Param × D) → D
  | .lambda [p] body _, x, env => body.meaning ((p, x) :: env)
  | .unary .quote operand _, x, env => operand.applied x env
  | _, _, _ => I.undefined
termination_by structural e => e

end

variable {method : Method} {source selector : Expr} (ty : Ty)
  (env : List (Param × D))

/-- A filter keeps the elements of its source for which its lambda holds. -/
theorem elements_where (h : method.name = "Where") :
    (call method [source, selector] ty).elements I env
      = (source.elements I env).filter fun x =>
          I.holds (selector.applied I x env) := by
  show (if method.name = "Where" then _ else _) = _
  rw [if_pos h]

/-- A method that ends a chain reduces the elements of its source. -/
theorem meaning_reduction {r : Reducer}
    (h : reducer? method.name = some r) :
    (call method [source] ty).meaning I env
      = I.reduce r (source.elements I env) := by
  show (match reducer? method.name with
    | some r => I.reduce r (source.elements I env)
    | none => I.undefined) = _
  rw [h]

/-- With a lambda, it reduces the elements that the lambda keeps, or what the
lambda makes of each of them. -/
theorem meaning_reductionBy {r : Reducer}
    (h : reducer? method.name = some r) :
    (call method [source, selector] ty).meaning I env
      = if r.filters then
          I.reduce r ((source.elements I env).filter fun x =>
            I.holds (selector.applied I x env))
        else
          I.reduce r ((source.elements I env).map fun x =>
            selector.applied I x env) := by
  show (match reducer? method.name with
    | some r => if r.filters then I.reduce r ((source.elements I env).filter _)
        else I.reduce r ((source.elements I env).map _)
    | none => I.undefined) = _
  rw [h]

-- ======================================================== the fragment

/-- Does a name stay whole in a path? -/
def PlainName (name : String) : Prop :=
  '.' ∉ name.toList ∧ '^' ∉ name.toList

/-- What a part of a query stands for. -/
inductive Role where
  /-- A member of a record, or of a member. -/
  | path
  | value
  /-- A member with filters. -/
  | collection
  /-- A lambda over the elements of a collection. -/
  | selector

/-- The parts of queries, in the scope of some parameters, the innermost
first: values made of constants and of the members of records by operators,
conditionals and reductions of collections. -/
inductive Query : Role → List Param → Expr → Prop where
  | member {scope p} (pty : Ty) {name} (ty : Ty)
      (bound : scope.any p.same = true) (plain : PlainName name) :
      Query .path scope (.member (.param p pty) name ty)
  | chain {scope object name} (ty : Ty)
      (hobject : Query .path scope object)
      (accessor : Compile.memberFunction? object.type name = none)
      (plain : PlainName name) :
      Query .path scope (.member object name ty)
  | constant {scope} (v : Value) (ty : Ty) :
      Query .value scope (.constant v ty)
  | ofPath {scope e} (he : Query .path scope e) : Query .value scope e
  | binary {scope op left right} (ty : Ty)
      (hop : op.operation?.isSome = true ∨ op = .coalesce)
      (hleft : Query .value scope left) (hright : Query .value scope right) :
      Query .value scope (.binary op left right ty)
  | unary {scope op operand} (ty : Ty) (hop : op = .not ∨ op = .negate)
      (hoperand : Query .value scope operand) :
      Query .value scope (.unary op operand ty)
  | conditional {scope test ifTrue ifFalse} (ty : Ty)
      (htest : Query .value scope test) (htrue : Query .value scope ifTrue)
      (hfalse : Query .value scope ifFalse) :
      Query .value scope (.conditional test ifTrue ifFalse ty)
  | reduction {scope method source} (ty : Ty)
      (hmethod : method.onSequence = true)
      (hname : (reducer? method.name).isSome = true)
      (hsource : Query .collection scope source) :
      Query .value scope (.call method [source] ty)
  | reductionBy {scope method source selector} (ty : Ty)
      (hmethod : method.onSequence = true)
      (hname : (reducer? method.name).isSome = true)
      (hsource : Query .collection scope source)
      (hselector : Query .selector scope selector) :
      Query .value scope (.call method [source, selector] ty)
  | root {scope e} (he : Query .path scope e) : Query .collection scope e
  | filter {scope method source selector} (ty : Ty)
      (hmethod : method.onSequence = true) (hname : method.name = "Where")
      (hsource : Query .collection scope source)
      (hselector : Query .selector scope selector) :
      Query .collection scope (.call method [source, selector] ty)
  | lambda {scope body} (p : Param) (ty : Ty)
      (hbody : Query .value (p :: scope) body) :
      Query .selector scope (.lambda [p] body ty)
  | quote {scope operand} (ty : Ty)
      (hoperand : Query .selector scope operand) :
      Query .selector scope (.unary .quote operand ty)

end Expr

end FilterCriteria
