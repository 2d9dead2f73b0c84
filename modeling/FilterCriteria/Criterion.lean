/-
Criteria: the operator trees of the filtering language.
-/
import FilterCriteria.Criterion.Operator
import FilterCriteria.Value

namespace FilterCriteria

/-- A criterion. -/
inductive Criterion where
  /-- A property of the record in question, by its path. -/
  | property (path : String)
  | literal (value : Value)
  | binary (op : Criterion.BinaryOp) (left right : Criterion)
  | unary (op : Criterion.UnaryOp) (operand : Criterion)
  | function (f : Criterion.Function) (operands : List Criterion)
  /-- What is made of the elements of a collection that meet the condition,
  out of the expression's value for each. -/
  | aggregate (collection : String) (kind : Criterion.Aggregate)
      (expression condition : Option Criterion)
  /-- Is the probe among the values? -/
  | within (probe : Criterion) (values : List Criterion)

namespace Criterion

def isNull (c : Criterion) : Criterion :=
  .unary .isNull c

def builtin (f : Builtin) (operands : List Criterion) : Criterion :=
  .function (.builtin f) operands

def custom (name : String) (operands : List Criterion) : Criterion :=
  .function (.custom name) operands

def path? : Criterion → Option String
  | .property path => some path
  | _ => none

def value? : Criterion → Option Value
  | .literal v => some v
  | _ => none

def collection? : Criterion → Option String
  | .aggregate collection _ _ _ => some collection
  | _ => none

-- ============================================================ equality

mutual

/-- Equality of trees, with that of values at the literals. -/
def same : Criterion → Criterion → Bool
  | .property p, .property q => p == q
  | .literal v, .literal w => v.same w
  | .binary f a b, .binary g c d => f == g && a.same c && b.same d
  | .unary f a, .unary g b => f == g && a.same b
  | .function f as, .function g bs => f == g && sameList as bs
  | .aggregate c f a b, .aggregate d g p q =>
    c == d && f == g && sameOption a p && sameOption b q
  | .within a as, .within b bs => a.same b && sameList as bs
  | _, _ => false
termination_by structural c => c

def sameList : List Criterion → List Criterion → Bool
  | [], [] => true
  | a :: as, b :: bs => a.same b && sameList as bs
  | _, _ => false
termination_by structural cs => cs

def sameOption : Option Criterion → Option Criterion → Bool
  | none, none => true
  | some a, some b => a.same b
  | _, _ => false
termination_by structural c => c

end

end Criterion

end FilterCriteria
