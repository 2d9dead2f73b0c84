/-
The members of strings, the text of other values, and the functions of the
type `Convert`.
-/
import FilterCriteria.Host.Argument
import FilterCriteria.Text.LetterCase

namespace FilterCriteria.Host

-- ============================================================== search

/-- Does `part` occur in the text? -/
def occursIn (part : List Char) : List Char → Bool
  | [] => part.isEmpty
  | c :: cs => part.isPrefixOf (c :: cs) || occursIn part cs

/-- The part of a text that starts behind `start` characters and has
`length`, if the text reaches so far. The sum of the two numbers is taken
exactly: that it may overflow 64 bits is left out, and such a sum is one that
the text does not reach. -/
def substring? (s : String) (start length : Int) : Option String :=
  let cs := s.toList
  if 0 ≤ start ∧ 0 ≤ length ∧ start + length ≤ cs.length then
    some (String.ofList ((cs.drop start.toNat).take length.toNat))
  else none

-- ================================================================ text

/-- The text of a value that has one. -/
def valueText (v : Value) : Except EvalError String :=
  match v with
  | .null => .ok ""
  | .string s => .ok s
  | .char c => .ok c.toString
  | .bool _ | .int _ | .long _ | .single _ | .double _ | .decimal _ =>
    .ok v.text
  | v => .error (.unbound (v.kindName ++ ".ToString"))

/-- The texts of values, one behind the other. -/
def concat : List Value → Except EvalError String
  | [] => .ok ""
  | v :: rest => do
    let s ← valueText v
    pure (s ++ (← concat rest))

-- ============================================================= strings

/-- Calls a method of a string. -/
def callString (s : String) (name : String) (args : List Value) :
    Except EvalError Value :=
  match name, args.length with
  | "ToUpper", 0 => .ok (.string (upperCase s))
  | "ToLower", 0 => .ok (.string (lowerCase s))
  | "Trim", 0 => .ok (.string (trimmed s))
  | "ToString", 0 => .ok (.string s)
  | "Contains", 1 => do
    pure (.bool (occursIn (← text args 0).toList s.toList))
  | "StartsWith", 1 => do
    pure (.bool ((← text args 0).toList.isPrefixOf s.toList))
  | "EndsWith", 1 => do
    pure (.bool ((← text args 0).toList.isSuffixOf s.toList))
  | "Substring", 1 => do
    let start ← integer args 0
    let found := substring? s start (s.length - start)
    (orFail .substringRange found).map .string
  | "Substring", 2 => do
    let start ← integer args 0
    let found := substring? s start (← integer args 1)
    (orFail .substringRange found).map .string
  | _, _ => .error (.unbound ("String." ++ name))

/-- Calls a method of the type. -/
def callStringType (name : String) (args : List Value) :
    Except EvalError Value :=
  match name with
  | "Concat" => (concat args).map .string
  | "IsNullOrEmpty" => do
    arity name args [1]
    match args with
    | [.null] => pure (.bool true)
    | [.string s] => pure (.bool s.isEmpty)
    | _ => pure (.bool false)
  | _ => .error (.unbound ("String." ++ name))

-- ========================================================= conversions

/-- Rounds a fractional number to a whole one, a half to the even one. -/
def roundedWhole : Value → Value
  | .double x => .double (Double.rounded .halfEven x)
  | .decimal x => .double (Double.rounded .halfEven x)
  | .single x => .double (Double.rounded .halfEven (Double.ofSingle x))
  | v => v

/-- Calls a function of `Convert`. To an integer type it rounds, where a
cast would leave the fraction out. -/
def callConvert (name : String) (args : List Value) :
    Except EvalError Value := do
  arity name args [1]
  let v := args.headD .null
  match name with
  | "ToInt32" => (roundedWhole v).convert .int32
  | "ToInt64" => (roundedWhole v).convert .int64
  | "ToDouble" => v.convert .double
  | "ToSingle" => v.convert .single
  | "ToDecimal" => v.convert .decimal
  | "ToChar" => v.convert .char
  | "ToString" => (valueText v).map .string
  | _ => .error (.unbound ("Convert." ++ name))

end FilterCriteria.Host
