/-
Expressions: the typed trees of predicates over a record. Every node has a
static type; the builders at the end compute it the way the typing rules of
the operators do.
-/
import FilterCriteria.Expr.Operator
import FilterCriteria.Value

namespace FilterCriteria

-- ========================================================== the parts

/-- A parameter of a lambda. The number alone tells parameters apart. -/
structure Param where
  id : Nat
  name : String
  ty : Ty
deriving DecidableEq

/-- Are the two the same parameter? -/
def Param.same (p q : Param) : Bool :=
  p.id == q.id

/-- Where a method is declared. -/
inductive Declaring where
  /-- On sequences in memory; the sequence is the first argument. -/
  | enumerable
  /-- On sequences of a query; the sequence is the first argument. -/
  | queryable
  /-- On any other type. -/
  | scalar
deriving DecidableEq

/-- A method, by the name of its type and its own. -/
structure Method where
  owner : String
  name : String
  declaring : Declaring
deriving DecidableEq

namespace Method

def scalar (owner name : String) : Method :=
  ⟨owner, name, .scalar⟩

def enumerable (name : String) : Method :=
  ⟨"Enumerable", name, .enumerable⟩

def queryable (name : String) : Method :=
  ⟨"Queryable", name, .queryable⟩

/-- Does the method work on a sequence, its first argument? -/
def onSequence (m : Method) : Bool :=
  m.declaring != .scalar

end Method

-- ========================================================== the trees

/-- An expression. The last field of every node is its static type. -/
inductive Expr where
  | param (p : Param) (ty : Ty)
  | constant (value : Value) (ty : Ty)
  | staticMember (owner member : String) (ty : Ty)
  | member (object : Expr) (member : String) (ty : Ty)
  | binary (op : Expr.BinaryOp) (left right : Expr) (ty : Ty)
  | unary (op : Expr.UnaryOp) (operand : Expr) (ty : Ty)
  /-- A call without a receiver. -/
  | call (method : Method) (args : List Expr) (ty : Ty)
  /-- A call on a receiver. -/
  | callOn (receiver : Expr) (method : Method) (args : List Expr) (ty : Ty)
  | conditional (test ifTrue ifFalse : Expr) (ty : Ty)
  /-- The construction of an object of the node's type. -/
  | construct (args : List Expr) (ty : Ty)
  | newArray (elements : List Expr) (ty : Ty)
  | lambda (params : List Param) (body : Expr) (ty : Ty)
  /-- Any other node. -/
  | other (name : String) (operands : List Expr) (ty : Ty)

namespace Expr

def type : Expr → Ty
  | .param _ ty => ty
  | .constant _ ty => ty
  | .staticMember _ _ ty => ty
  | .member _ _ ty => ty
  | .binary _ _ _ ty => ty
  | .unary _ _ ty => ty
  | .call _ _ ty => ty
  | .callOn _ _ _ ty => ty
  | .conditional _ _ _ ty => ty
  | .construct _ ty => ty
  | .newArray _ ty => ty
  | .lambda _ _ ty => ty
  | .other _ _ ty => ty

/-- The expression with another static type at its root. -/
def withType (ty : Ty) : Expr → Expr
  | .param p _ => .param p ty
  | .constant v _ => .constant v ty
  | .staticMember o m _ => .staticMember o m ty
  | .member o m _ => .member o m ty
  | .binary op l r _ => .binary op l r ty
  | .unary op e _ => .unary op e ty
  | .call m args _ => .call m args ty
  | .callOn r m args _ => .callOn r m args ty
  | .conditional c t f _ => .conditional c t f ty
  | .construct args _ => .construct args ty
  | .newArray es _ => .newArray es ty
  | .lambda ps b _ => .lambda ps b ty
  | .other n es _ => .other n es ty

/-- The name of the kind of node. -/
def kindName : Expr → String
  | .param .. => "Parameter"
  | .constant .. => "Constant"
  | .staticMember .. | .member .. => "MemberAccess"
  | .binary op .. => op.name
  | .unary op .. => op.name
  | .call .. | .callOn .. => "Call"
  | .conditional .. => "Conditional"
  | .construct .. => "New"
  | .newArray .. => "NewArrayInit"
  | .lambda .. => "Lambda"
  | .other name .. => name

-- ======================================================== closed trees

mutual

/-- Does no parameter occur in the expression? A lambda never counts as
closed. -/
def isClosed : Expr → Bool
  | .param .. => false
  | .constant .. => true
  | .staticMember .. => true
  | .member object _ _ => object.isClosed
  | .binary _ left right _ => left.isClosed && right.isClosed
  | .unary _ operand _ => operand.isClosed
  | .call _ args _ => allClosed args
  | .callOn receiver _ args _ => receiver.isClosed && allClosed args
  | .conditional test ifTrue ifFalse _ =>
    test.isClosed && ifTrue.isClosed && ifFalse.isClosed
  | .construct args _ => allClosed args
  | .newArray elements _ => allClosed elements
  | .lambda .. => false
  | .other _ operands _ => allClosed operands
termination_by structural e => e

def allClosed : List Expr → Bool
  | [] => true
  | e :: rest => e.isClosed && allClosed rest
termination_by structural es => es

end

-- ============================================================ equality

/-- Are the lists the same parameters one by one? -/
def sameParams : List Param → List Param → Bool
  | [], [] => true
  | p :: ps, q :: qs => p.same q && sameParams ps qs
  | _, _ => false

mutual

/-- Equality of trees, with that of values at constants and that of
parameters at variables. -/
def same : Expr → Expr → Bool
  | .param p s, .param q t => p.same q && s == t
  | .constant a s, .constant b t => a.same b && s == t
  | .staticMember o m s, .staticMember p n t => o == p && m == n && s == t
  | .member o m s, .member p n t => o.same p && m == n && s == t
  | .binary f a b s, .binary g c d t =>
    f == g && a.same c && b.same d && s == t
  | .unary f a s, .unary g b t => f == g && a.same b && s == t
  | .call m as s, .call n bs t => m == n && sameList as bs && s == t
  | .callOn a m as s, .callOn b n bs t =>
    a.same b && m == n && sameList as bs && s == t
  | .conditional a b c s, .conditional d e f t =>
    a.same d && b.same e && c.same f && s == t
  | .construct as s, .construct bs t => sameList as bs && s == t
  | .newArray as s, .newArray bs t => sameList as bs && s == t
  | .lambda ps a s, .lambda qs b t => sameParams ps qs && a.same b && s == t
  | .other m as s, .other n bs t => m == n && sameList as bs && s == t
  | _, _ => false
termination_by structural e => e

def sameList : List Expr → List Expr → Bool
  | [], [] => true
  | a :: as, b :: bs => a.same b && sameList as bs
  | _, _ => false
termination_by structural es => es

end

-- =============================================================== size

mutual

/-- The number of nodes. -/
def size : Expr → Nat
  | .param .. | .constant .. | .staticMember .. => 1
  | .member object _ _ => object.size + 1
  | .binary _ left right _ => left.size + right.size + 1
  | .unary _ operand _ => operand.size + 1
  | .call _ args _ => sizeList args + 1
  | .callOn receiver _ args _ => receiver.size + sizeList args + 1
  | .conditional test ifTrue ifFalse _ =>
    test.size + ifTrue.size + ifFalse.size + 1
  | .construct args _ => sizeList args + 1
  | .newArray elements _ => sizeList elements + 1
  | .lambda _ body _ => body.size + 1
  | .other _ operands _ => sizeList operands + 1
termination_by structural e => e

def sizeList : List Expr → Nat
  | [] => 0
  | e :: rest => e.size + sizeList rest
termination_by structural es => es

end

-- ============================================================ builders

/-- A parameter as an expression, with the type it was declared with. -/
def ofParam (p : Param) : Expr :=
  .param p p.ty

/-- A constant with the type of its value. -/
def ofValue (v : Value) : Expr :=
  .constant v v.type

/-- The type of the objects that hold captured variables. -/
def holderType : Ty := .object "<>c__DisplayClass"

/-- The read of a captured variable: a field of a constant object that
holds the variables of one lambda. -/
def ofHolder (fields : List (String × Value)) (name : String) (ty : Ty) :
    Expr :=
  .member (.constant (.object (Assoc.ofList fields)) holderType) name ty

/-- The read of a captured variable that is the only one. -/
def ofCaptured (name : String) (v : Value) : Expr :=
  ofHolder [(name, v)] name v.type

/-- The type of an operator's result. -/
def binaryType (op : BinaryOp) (left right : Ty) : Ty :=
  if op.isComparison then .bool
  else match op with
  | .andAlso | .orElse => .bool
  | .coalesce => right
  | .arrayIndex => left.element?.getD .anyObject
  | _ => left

def ofBinary (op : BinaryOp) (left right : Expr) : Expr :=
  .binary op left right (binaryType op left.type right.type)

/-- An operator whose result has the type of its operand. -/
def ofUnary (op : UnaryOp) (operand : Expr) : Expr :=
  .unary op operand operand.type

/-- The call of a method that the receiver's type declares. -/
def ofCall (receiver : Expr) (name : String) (args : List Expr) (ty : Ty) :
    Expr :=
  .callOn receiver (.scalar receiver.type.underlying.text name) args ty

def ofConditional (test ifTrue ifFalse : Expr) : Expr :=
  .conditional test ifTrue ifFalse ifTrue.type

def ofElements (element : Ty) (elements : List Expr) : Expr :=
  .newArray elements (.sequence element)

/-- A lambda, whose type is that of its body. -/
def ofLambda (params : List Param) (body : Expr) : Expr :=
  .lambda params body body.type

end Expr

end FilterCriteria
