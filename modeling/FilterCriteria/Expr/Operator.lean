/-
The operators of expressions.
-/

namespace FilterCriteria.Expr

/-- The operators with two operands. -/
inductive BinaryOp where
  | andAlso
  | orElse
  | equal
  | notEqual
  | greaterThan
  | greaterThanOrEqual
  | lessThan
  | lessThanOrEqual
  | and
  | or
  | exclusiveOr
  | add
  | subtract
  | multiply
  | divide
  | modulo
  | coalesce
  | leftShift
  | rightShift
  | power
  | arrayIndex
deriving DecidableEq

namespace BinaryOp

def all : List BinaryOp :=
  [.andAlso, .orElse, .equal, .notEqual, .greaterThan, .greaterThanOrEqual,
    .lessThan, .lessThanOrEqual, .and, .or, .exclusiveOr, .add, .subtract,
    .multiply, .divide, .modulo, .coalesce, .leftShift, .rightShift, .power,
    .arrayIndex]

def name : BinaryOp → String
  | .andAlso => "AndAlso"
  | .orElse => "OrElse"
  | .equal => "Equal"
  | .notEqual => "NotEqual"
  | .greaterThan => "GreaterThan"
  | .greaterThanOrEqual => "GreaterThanOrEqual"
  | .lessThan => "LessThan"
  | .lessThanOrEqual => "LessThanOrEqual"
  | .and => "And"
  | .or => "Or"
  | .exclusiveOr => "ExclusiveOr"
  | .add => "Add"
  | .subtract => "Subtract"
  | .multiply => "Multiply"
  | .divide => "Divide"
  | .modulo => "Modulo"
  | .coalesce => "Coalesce"
  | .leftShift => "LeftShift"
  | .rightShift => "RightShift"
  | .power => "Power"
  | .arrayIndex => "ArrayIndex"

/-- The sign written between the operands. -/
def symbol : BinaryOp → String
  | .andAlso => "&&"
  | .orElse => "||"
  | .equal => "=="
  | .notEqual => "!="
  | .greaterThan => ">"
  | .greaterThanOrEqual => ">="
  | .lessThan => "<"
  | .lessThanOrEqual => "<="
  | .and => "&"
  | .or => "|"
  | .exclusiveOr => "^"
  | .add => "+"
  | .subtract => "-"
  | .multiply => "*"
  | .divide => "/"
  | .modulo => "%"
  | .coalesce => "??"
  | .leftShift => "<<"
  | .rightShift => ">>"
  | .power => "**"
  | .arrayIndex => "[]"

def isComparison : BinaryOp → Bool
  | .equal | .notEqual | .greaterThan | .greaterThanOrEqual | .lessThan
  | .lessThanOrEqual => true
  | _ => false

def ofName? (name : String) : Option BinaryOp :=
  all.find? (·.name == name)

end BinaryOp

/-- The operators with one operand. -/
inductive UnaryOp where
  | not
  | negate
  | unaryPlus
  /-- A cast to the type of the whole expression. -/
  | convert
  /-- A mark around a lambda that is handed over as a tree. -/
  | quote
  | arrayLength
  | typeAs
deriving DecidableEq

namespace UnaryOp

def all : List UnaryOp :=
  [.not, .negate, .unaryPlus, .convert, .quote, .arrayLength, .typeAs]

def name : UnaryOp → String
  | .not => "Not"
  | .negate => "Negate"
  | .unaryPlus => "UnaryPlus"
  | .convert => "Convert"
  | .quote => "Quote"
  | .arrayLength => "ArrayLength"
  | .typeAs => "TypeAs"

def ofName? (name : String) : Option UnaryOp :=
  all.find? (·.name == name)

end UnaryOp

end FilterCriteria.Expr
