/-
Aggregates in the making. Methods on sequences that follow one another make
one aggregate: each of them goes on with what the one before has made.
-/
import FilterCriteria.Criterion

namespace FilterCriteria

/-- The parts of an aggregate. -/
structure Reduction where
  collection : String
  kind : Criterion.Aggregate
  expression : Option Criterion
  condition : Option Criterion

namespace Reduction

/-- A collection of which nothing has been asked but whether there is an
element. -/
def ofCollection (collection : String) : Reduction :=
  ⟨collection, .any, none, none⟩

/-- A property starts an aggregate and an aggregate goes on; nothing else
is a collection. -/
def ofCriterion? : Criterion → Option Reduction
  | .property path => some (ofCollection path)
  | .aggregate collection kind expression condition =>
    some ⟨collection, kind, expression, condition⟩
  | _ => none

def toCriterion (r : Reduction) : Criterion :=
  .aggregate r.collection r.kind r.expression r.condition

def withKind (kind : Criterion.Aggregate) (r : Reduction) : Reduction :=
  { r with kind }

/-- Puts an expression, or none, in place of the one there is. -/
def project (expression : Option Criterion) (r : Reduction) : Reduction :=
  { r with expression }

/-- Projects a member of the element, or of what is already projected if
that is a property. -/
def projectMember (member : String) (r : Reduction) : Reduction :=
  let path := match r.expression with
    | some (.property path) => path ++ "." ++ member
    | _ => member
  { r with expression := some (.property path) }

/-- Adds a condition to the one there is. -/
def filter (added : Option Criterion) (r : Reduction) : Reduction :=
  let condition := match r.condition, added with
    | some old, some new => some (.binary .and old new)
    | some old, none => some old
    | none, added => added
  { r with condition }

end Reduction

end FilterCriteria
