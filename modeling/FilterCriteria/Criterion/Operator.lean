/-
The operators, aggregates and built-in functions of criteria, by the names
that the criteria language has for them.
-/

namespace FilterCriteria.Criterion

-- =========================================================== operators

/-- The operators with two operands. -/
inductive BinaryOp where
  | and
  | or
  | equal
  | notEqual
  | greater
  | greaterOrEqual
  | less
  | lessOrEqual
  | bitwiseAnd
  | bitwiseOr
  | bitwiseXor
  | plus
  | minus
  | multiply
  | divide
  | modulo
deriving DecidableEq

namespace BinaryOp

def all : List BinaryOp :=
  [.and, .or, .equal, .notEqual, .greater, .greaterOrEqual, .less,
    .lessOrEqual, .bitwiseAnd, .bitwiseOr, .bitwiseXor, .plus, .minus,
    .multiply, .divide, .modulo]

def name : BinaryOp → String
  | .and => "And"
  | .or => "Or"
  | .equal => "Equal"
  | .notEqual => "NotEqual"
  | .greater => "Greater"
  | .greaterOrEqual => "GreaterOrEqual"
  | .less => "Less"
  | .lessOrEqual => "LessOrEqual"
  | .bitwiseAnd => "BitwiseAnd"
  | .bitwiseOr => "BitwiseOr"
  | .bitwiseXor => "BitwiseXor"
  | .plus => "Plus"
  | .minus => "Minus"
  | .multiply => "Multiply"
  | .divide => "Divide"
  | .modulo => "Modulo"

/-- The sign written between the operands. -/
def symbol : BinaryOp → String
  | .and => "And"
  | .or => "Or"
  | .equal => "="
  | .notEqual => "<>"
  | .greater => ">"
  | .greaterOrEqual => ">="
  | .less => "<"
  | .lessOrEqual => "<="
  | .bitwiseAnd => "&"
  | .bitwiseOr => "|"
  | .bitwiseXor => "^"
  | .plus => "+"
  | .minus => "-"
  | .multiply => "*"
  | .divide => "/"
  | .modulo => "%"

def ofName? (name : String) : Option BinaryOp :=
  all.find? (·.name == name)

end BinaryOp

/-- The operators with one operand. -/
inductive UnaryOp where
  | not
  | bitwiseNot
  | minus
  | plus
  | isNull
deriving DecidableEq

namespace UnaryOp

def all : List UnaryOp :=
  [.not, .bitwiseNot, .minus, .plus, .isNull]

def name : UnaryOp → String
  | .not => "Not"
  | .bitwiseNot => "BitwiseNot"
  | .minus => "Minus"
  | .plus => "Plus"
  | .isNull => "IsNull"

def ofName? (name : String) : Option UnaryOp :=
  all.find? (·.name == name)

end UnaryOp

-- ========================================================== aggregates

/-- What is made of the elements of a collection. -/
inductive Aggregate where
  | any
  | count
  | max
  | min
  | avg
  | sum
  | single
deriving DecidableEq

namespace Aggregate

def all : List Aggregate :=
  [.any, .count, .max, .min, .avg, .sum, .single]

def name : Aggregate → String
  | .any => "Exists"
  | .count => "Count"
  | .max => "Max"
  | .min => "Min"
  | .avg => "Avg"
  | .sum => "Sum"
  | .single => "Single"

def ofName? (name : String) : Option Aggregate :=
  all.find? (·.name == name)

end Aggregate

-- =========================================================== functions

/-- The functions that the criteria language has by itself. -/
inductive Builtin where
  | iif
  | isNull
  | isNullOrEmpty
  | trim
  | len
  | substring
  | upper
  | lower
  | concat
  | ascii
  | char
  | toStr
  | replace
  | reverse
  | insert
  | charIndex
  | remove
  | padLeft
  | padRight
  | startsWith
  | endsWith
  | contains
  | abs
  | sqr
  | cos
  | sin
  | atn
  | exp
  | log
  | rnd
  | tan
  | power
  | sign
  | round
  | ceiling
  | floor
  | max
  | min
  | acos
  | asin
  | atn2
  | bigMul
  | cosh
  | log10
  | sinh
  | tanh
  | toInt
  | toLong
  | toFloat
  | toDouble
  | toDecimal
  | getDate
  | getDay
  | getDayOfWeek
  | getDayOfYear
  | getHour
  | getMilliSecond
  | getMinute
  | getMonth
  | getSecond
  | getTimeOfDay
  | getYear
  | addDays
  | addHours
  | addMilliSeconds
  | addMinutes
  | addMonths
  | addSeconds
  | addTicks
  | addTimeSpan
  | addYears
  | dateDiffDay
  | dateDiffHour
  | dateDiffMilliSecond
  | dateDiffMinute
  | dateDiffMonth
  | dateDiffSecond
  | dateDiffTick
  | dateDiffYear
  | now
  | today
  | utcNow
deriving DecidableEq

namespace Builtin

def all : List Builtin :=
  [.iif, .isNull, .isNullOrEmpty, .trim, .len, .substring, .upper, .lower,
    .concat, .ascii, .char, .toStr, .replace, .reverse, .insert, .charIndex,
    .remove, .padLeft, .padRight, .startsWith, .endsWith, .contains, .abs,
    .sqr, .cos, .sin, .atn, .exp, .log, .rnd, .tan, .power, .sign, .round,
    .ceiling, .floor, .max, .min, .acos, .asin, .atn2, .bigMul, .cosh, .log10,
    .sinh, .tanh, .toInt, .toLong, .toFloat, .toDouble, .toDecimal, .getDate,
    .getDay, .getDayOfWeek, .getDayOfYear, .getHour, .getMilliSecond,
    .getMinute, .getMonth, .getSecond, .getTimeOfDay, .getYear, .addDays,
    .addHours, .addMilliSeconds, .addMinutes, .addMonths, .addSeconds,
    .addTicks, .addTimeSpan, .addYears, .dateDiffDay, .dateDiffHour,
    .dateDiffMilliSecond, .dateDiffMinute, .dateDiffMonth, .dateDiffSecond,
    .dateDiffTick, .dateDiffYear, .now, .today, .utcNow]

def name : Builtin → String
  | .iif => "Iif"
  | .isNull => "IsNull"
  | .isNullOrEmpty => "IsNullOrEmpty"
  | .trim => "Trim"
  | .len => "Len"
  | .substring => "Substring"
  | .upper => "Upper"
  | .lower => "Lower"
  | .concat => "Concat"
  | .ascii => "Ascii"
  | .char => "Char"
  | .toStr => "ToStr"
  | .replace => "Replace"
  | .reverse => "Reverse"
  | .insert => "Insert"
  | .charIndex => "CharIndex"
  | .remove => "Remove"
  | .padLeft => "PadLeft"
  | .padRight => "PadRight"
  | .startsWith => "StartsWith"
  | .endsWith => "EndsWith"
  | .contains => "Contains"
  | .abs => "Abs"
  | .sqr => "Sqr"
  | .cos => "Cos"
  | .sin => "Sin"
  | .atn => "Atn"
  | .exp => "Exp"
  | .log => "Log"
  | .rnd => "Rnd"
  | .tan => "Tan"
  | .power => "Power"
  | .sign => "Sign"
  | .round => "Round"
  | .ceiling => "Ceiling"
  | .floor => "Floor"
  | .max => "Max"
  | .min => "Min"
  | .acos => "Acos"
  | .asin => "Asin"
  | .atn2 => "Atn2"
  | .bigMul => "BigMul"
  | .cosh => "Cosh"
  | .log10 => "Log10"
  | .sinh => "Sinh"
  | .tanh => "Tanh"
  | .toInt => "ToInt"
  | .toLong => "ToLong"
  | .toFloat => "ToFloat"
  | .toDouble => "ToDouble"
  | .toDecimal => "ToDecimal"
  | .getDate => "GetDate"
  | .getDay => "GetDay"
  | .getDayOfWeek => "GetDayOfWeek"
  | .getDayOfYear => "GetDayOfYear"
  | .getHour => "GetHour"
  | .getMilliSecond => "GetMilliSecond"
  | .getMinute => "GetMinute"
  | .getMonth => "GetMonth"
  | .getSecond => "GetSecond"
  | .getTimeOfDay => "GetTimeOfDay"
  | .getYear => "GetYear"
  | .addDays => "AddDays"
  | .addHours => "AddHours"
  | .addMilliSeconds => "AddMilliSeconds"
  | .addMinutes => "AddMinutes"
  | .addMonths => "AddMonths"
  | .addSeconds => "AddSeconds"
  | .addTicks => "AddTicks"
  | .addTimeSpan => "AddTimeSpan"
  | .addYears => "AddYears"
  | .dateDiffDay => "DateDiffDay"
  | .dateDiffHour => "DateDiffHour"
  | .dateDiffMilliSecond => "DateDiffMilliSecond"
  | .dateDiffMinute => "DateDiffMinute"
  | .dateDiffMonth => "DateDiffMonth"
  | .dateDiffSecond => "DateDiffSecond"
  | .dateDiffTick => "DateDiffTick"
  | .dateDiffYear => "DateDiffYear"
  | .now => "Now"
  | .today => "Today"
  | .utcNow => "UtcNow"

def ofName? (name : String) : Option Builtin :=
  all.find? (·.name == name)

end Builtin

/-- The function of a call: a built-in one, or a custom one by its name. -/
inductive Function where
  | builtin (f : Builtin)
  | custom (name : String)
deriving DecidableEq

def Function.name : Function → String
  | .builtin f => f.name
  | .custom name => name

end FilterCriteria.Criterion
