/-
The literal values that expressions and criteria hold, their views as
numbers and text, and their equality.
-/
import FilterCriteria.Assoc
import FilterCriteria.Number.Text
import FilterCriteria.Time.Text
import FilterCriteria.Ty

namespace FilterCriteria

/-- A literal value. -/
inductive Value where
  | null
  | bool (b : Bool)
  | char (c : Char)
  | int (n : Int32)
  | long (n : Int64)
  | single (x : Float32)
  | double (x : Float)
  | decimal (x : Float)
  | string (s : String)
  | dateTime (t : DateTime)
  | timeSpan (t : TimeSpan)
  | array (items : List Value)
  /-- The fields of an object, in ascending order of their names. -/
  | object (fields : List (String × Value))

namespace Value

-- =============================================================== views

def isNull : Value → Bool
  | .null => true
  | _ => false

/-- A value that is a number, as a double. A character counts as its code
point. -/
def toDouble? : Value → Option Float
  | .int n => some (Double.ofInt n.toInt)
  | .long n => some (Double.ofInt n.toInt)
  | .single x => some (Double.ofSingle x)
  | .double x => some x
  | .decimal x => some x
  | .char c => some (Double.ofInt c.toNat)
  | _ => none

/-- A value of an integer type, as an integer. A character counts as its
code point. -/
def toInt? : Value → Option Int64
  | .int n => some n.toInt64
  | .long n => some n
  | .char c => some (Int64.ofNat c.toNat)
  | _ => none

def toString? : Value → Option String
  | .string s => some s
  | _ => none

/-- The elements of a sequence. A string is not one. -/
def elements? : Value → Option (List Value)
  | .array items => some items
  | _ => none

/-- The name of the kind of value. -/
def kindName : Value → String
  | .null => "Null"
  | .bool _ => "Boolean"
  | .char _ => "Char"
  | .int _ => "Int32"
  | .long _ => "Int64"
  | .single _ => "Single"
  | .double _ => "Double"
  | .decimal _ => "Decimal"
  | .string _ => "String"
  | .dateTime _ => "DateTime"
  | .timeSpan _ => "TimeSpan"
  | .array _ => "Array"
  | .object _ => "Object"

/-- The static type of a value. That of a sequence is told by its first
element. -/
def type : Value → Ty
  | .null => .anyObject
  | .bool _ => .bool
  | .char _ => .char
  | .int _ => .int32
  | .long _ => .int64
  | .single _ => .single
  | .double _ => .double
  | .decimal _ => .decimal
  | .string _ => .string
  | .dateTime _ => .dateTime
  | .timeSpan _ => .timeSpan
  | .array [] => .sequence .anyObject
  | .array (v :: _) => .sequence v.type
  | .object _ => .anyObject
termination_by structural v => v

-- ============================================================ equality

mutual

/-- Equality of values of one kind. Numbers compare as numbers do: what is
not a number differs from itself, and the two zeros are equal. -/
def same : Value → Value → Bool
  | .null, .null => true
  | .bool a, .bool b => a == b
  | .char a, .char b => a == b
  | .int a, .int b => a == b
  | .long a, .long b => a == b
  | .single a, .single b => a == b
  | .double a, .double b => a == b
  | .decimal a, .decimal b => a == b
  | .string a, .string b => a == b
  | .dateTime a, .dateTime b => a == b
  | .timeSpan a, .timeSpan b => a == b
  | .array a, .array b => sameList a b
  | .object a, .object b => sameFields a b
  | _, _ => false
termination_by structural v => v

def sameList : List Value → List Value → Bool
  | [], [] => true
  | a :: as, b :: bs => a.same b && sameList as bs
  | _, _ => false
termination_by structural v => v

def sameFields : List (String × Value) → List (String × Value) → Bool
  | [], [] => true
  | (j, a) :: as, (k, b) :: bs => j == k && a.same b && sameFields as bs
  | _, _ => false
termination_by structural v => v

end

-- ================================================================ text

/-- The words for the two truth values. -/
def boolText (b : Bool) : String :=
  if b then "True" else "False"

mutual

/-- A value as it shows inside the text of an expression. -/
def text : Value → String
  | .null => "null"
  | .bool b => boolText b
  | .char c => "'" ++ c.toString ++ "'"
  | .int n => intText n.toInt
  | .long n => intText n.toInt
  | .single x => Single.text x
  | .double x => Double.text x
  | .decimal x => Double.text x
  | .string s => "\"" ++ s ++ "\""
  | .dateTime t => t.text
  | .timeSpan t => t.text
  | .array items => "new [] \x7b" ++ itemsText items ++ " \x7d"
  | .object _ => "value(<closure>)"
termination_by structural v => v

/-- Elements one after the other, each behind a blank. -/
def itemsText : List Value → String
  | [] => ""
  | [v] => " " ++ v.text
  | v :: rest => " " ++ v.text ++ "," ++ itemsText rest
termination_by structural v => v

end

end Value

end FilterCriteria
