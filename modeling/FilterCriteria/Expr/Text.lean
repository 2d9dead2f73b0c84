/-
The text of an expression, as a programmer would write it.
-/
import FilterCriteria.Expr

namespace FilterCriteria.Expr

/-- Texts with a comma and a blank between them. -/
def commas (texts : List String) : String :=
  String.intercalate ", " texts

/-- The parameters of a lambda: a single one stands without brackets. -/
def paramsText : List Param → String
  | [p] => p.name
  | ps => "(" ++ commas (ps.map Param.name) ++ ")"

/-- The text of a unary operator around that of its operand. -/
def unaryText (op : UnaryOp) (operand : String) (ty : Ty) : String :=
  match op with
  | .not => "Not(" ++ operand ++ ")"
  | .negate => "-" ++ operand
  | .unaryPlus => "+" ++ operand
  | .convert => "Convert(" ++ operand ++ ", " ++ ty.text ++ ")"
  | .quote => operand
  | .arrayLength => "ArrayLength(" ++ operand ++ ")"
  | .typeAs => "(" ++ operand ++ " As " ++ ty.text ++ ")"

/-- The text of a binary operator between those of its operands. -/
def binaryText (op : BinaryOp) (left right : String) : String :=
  match op with
  | .arrayIndex => left ++ "[" ++ right ++ "]"
  | op => "(" ++ left ++ " " ++ op.symbol ++ " " ++ right ++ ")"

/-- The text of a call without a receiver. The sequence that a method works
on stands where the receiver would. -/
def callText (method : Method) (args : List String) : String :=
  match method.onSequence, args with
  | true, source :: rest =>
    source ++ "." ++ method.name ++ "(" ++ commas rest ++ ")"
  | _, args =>
    method.owner ++ "." ++ method.name ++ "(" ++ commas args ++ ")"

mutual

/-- The text of an expression. -/
def text : Expr → String
  | .param p _ => p.name
  | .constant v _ => v.text
  | .staticMember owner name _ => owner ++ "." ++ name
  | .member object name _ => object.text ++ "." ++ name
  | .binary op left right _ => binaryText op left.text right.text
  | .unary op operand ty => unaryText op operand.text ty
  | .call method args _ => callText method (texts args)
  | .callOn receiver method args _ =>
    receiver.text ++ "." ++ method.name ++ "(" ++ commas (texts args) ++ ")"
  | .conditional test ifTrue ifFalse _ =>
    "IIF(" ++ test.text ++ ", " ++ ifTrue.text ++ ", " ++ ifFalse.text ++ ")"
  | .construct args ty => "new " ++ ty.text ++ "(" ++ commas (texts args) ++ ")"
  | .newArray elements _ => "new [] \x7b" ++ commas (texts elements) ++ "\x7d"
  | .lambda params body _ => paramsText params ++ " => " ++ body.text
  | .other name operands _ => name ++ "(" ++ commas (texts operands) ++ ")"
termination_by structural e => e

def texts : List Expr → List String
  | [] => []
  | e :: rest => e.text :: texts rest
termination_by structural es => es

end

end FilterCriteria.Expr
