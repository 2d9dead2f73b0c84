/-
The text of criteria in the filtering language. Brackets stand where the
operators' precedence needs them, and nowhere else.
-/
import FilterCriteria.Criterion

namespace FilterCriteria

-- ============================================================ literals

namespace Value

/-- Text between single quotes, with those inside written twice. -/
def quoted (s : String) : String :=
  let double (c : Char) := if c = '\x27' then [c, c] else [c]
  "'" ++ String.ofList (s.toList.flatMap double) ++ "'"

mutual

/-- A value as the criteria language writes it. -/
def literal : Value → String
  | .null => "null"
  | .bool b => boolText b
  | .char c => quoted c.toString ++ "c"
  | .int n => intText n.toInt
  | .long n => intText n.toInt ++ "L"
  | .single x => Double.literalText (Double.ofSingle x) ++ "f"
  | .double x => Double.literalText x
  | .decimal x => Double.literalText x ++ "m"
  | .string s => quoted s
  | .dateTime t => t.literal
  | .timeSpan t => "#" ++ t.text ++ "#"
  | .array items => "(" ++ String.intercalate ", " (literals items) ++ ")"
  | .object fields =>
    "\x7b" ++ String.intercalate ", " (fieldLiterals fields) ++ "\x7d"
termination_by structural v => v

def literals : List Value → List String
  | [] => []
  | v :: rest => v.literal :: literals rest
termination_by structural vs => vs

def fieldLiterals : List (String × Value) → List String
  | [] => []
  | (name, v) :: rest => (name ++ " = " ++ v.literal) :: fieldLiterals rest
termination_by structural vs => vs

end

/-- Is the value a number below zero, so that its text starts with a sign
that belongs to it? -/
def isNegative : Value → Bool
  | .int n => n < 0
  | .long n => n < 0
  | .single x => (Reading.ofSingle x).less (.ofInt 0)
  | .double x | .decimal x => (Reading.ofDouble x).less (.ofInt 0)
  | _ => false

end Value

-- ========================================================== precedence

namespace Criterion

/-- How strongly an operator binds, from the loosest to an operand by
itself. -/
inductive Precedence where
  | or
  | and
  | not
  | comparison
  | bitwiseOr
  | bitwiseXor
  | bitwiseAnd
  | sum
  | product
  | sign
  | atom
deriving DecidableEq

namespace Precedence

def level : Precedence → Nat
  | .or => 1
  | .and => 2
  | .not => 3
  | .comparison => 4
  | .bitwiseOr => 5
  | .bitwiseXor => 6
  | .bitwiseAnd => 7
  | .sum => 8
  | .product => 9
  | .sign => 10
  | .atom => 11

end Precedence

def BinaryOp.precedence : BinaryOp → Precedence
  | .or => .or
  | .and => .and
  | .equal | .notEqual | .greater | .greaterOrEqual | .less
  | .lessOrEqual => .comparison
  | .bitwiseOr => .bitwiseOr
  | .bitwiseXor => .bitwiseXor
  | .bitwiseAnd => .bitwiseAnd
  | .plus | .minus => .sum
  | .multiply | .divide | .modulo => .product

/-- The least level of a right operand without brackets. A chain of `And`
or of `Or` is written flat whichever way it is nested; any other operator
takes its equals on the left only. -/
def BinaryOp.rightLevel (op : BinaryOp) : Nat :=
  match op with
  | .and | .or => op.precedence.level
  | op => op.precedence.level + 1

def UnaryOp.precedence : UnaryOp → Precedence
  | .not => .not
  | .isNull => .comparison
  | .minus | .plus | .bitwiseNot => .sign

/-- The name of the custom function that is written between its operands. -/
def likeName : String := "Like"

/-- Is the function written between its operands? It has to have two. -/
def isInfix (f : Function) (operands : List Criterion) : Bool :=
  f == .custom likeName && operands.length == 2

/-- How strongly the operator at the root binds. -/
def precedence : Criterion → Precedence
  | .binary op _ _ => op.precedence
  | .unary op _ => op.precedence
  | .within _ _ => .comparison
  | .function f operands => if isInfix f operands then .comparison else .atom
  | .literal v => if v.isNegative then .sign else .atom
  | _ => .atom

/-- Puts brackets around the text of an operand that binds less strongly
than `least`. -/
def bracketed (least : Nat) (c : Criterion) (text : String) : String :=
  if c.precedence.level < least then "(" ++ text ++ ")" else text

/-- The least level of the operands of a comparison. -/
def comparedLevel : Nat := Precedence.comparison.level + 1

-- ================================================================ text

/-- A unary operator and its operand. -/
def unaryText (op : UnaryOp) (operand : Criterion) (text : String) : String :=
  match op with
  | .not => "Not " ++ bracketed op.precedence.level operand text
  | .isNull => bracketed comparedLevel operand text ++ " Is Null"
  | .minus => "- " ++ bracketed op.precedence.level operand text
  | .plus => "+ " ++ bracketed op.precedence.level operand text
  | .bitwiseNot => "~ " ++ bracketed op.precedence.level operand text

/-- A function and its operands. -/
def functionText (f : Function) (operands : List Criterion)
    (texts : List String) : String :=
  match isInfix f operands, operands, texts with
  | true, [a, b], [s, t] =>
    bracketed comparedLevel a s ++ " Like " ++ bracketed comparedLevel b t
  | _, _, texts => f.name ++ "(" ++ String.intercalate ", " texts ++ ")"

/-- A collection, its condition, and what is made of it. That anything
meets the condition goes without saying. -/
def aggregateText (collection : String) (kind : Aggregate)
    (expression : Option Criterion) (expressionText condition : String) :
    String :=
  let selection := "[" ++ collection ++ "][" ++ condition ++ "]"
  if kind = .any ∧ expression.isNone then selection
  else selection ++ "." ++ kind.name ++ "(" ++ expressionText ++ ")"

mutual

/-- The text of a criterion. -/
def text : Criterion → String
  | .property path => "[" ++ path ++ "]"
  | .literal v => v.literal
  | .binary op left right =>
    bracketed op.precedence.level left left.text
      ++ " " ++ op.symbol ++ " " ++ bracketed op.rightLevel right right.text
  | .unary op operand => unaryText op operand operand.text
  | .function f operands => functionText f operands (texts operands)
  | .aggregate collection kind expression condition =>
    aggregateText collection kind expression (optionText expression)
      (optionText condition)
  | .within probe values =>
    bracketed comparedLevel probe probe.text
      ++ " In (" ++ String.intercalate ", " (texts values) ++ ")"
termination_by structural c => c

def texts : List Criterion → List String
  | [] => []
  | c :: rest => c.text :: texts rest
termination_by structural cs => cs

/-- The text of an operand that may be absent. -/
def optionText : Option Criterion → String
  | none => ""
  | some c => c.text
termination_by structural c => c

end

end Criterion

end FilterCriteria
