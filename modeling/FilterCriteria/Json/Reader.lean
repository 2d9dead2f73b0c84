/-
Reading JSON text, strictly: no comments, no commas too many, no leading
zeros, and nothing but blanks around the value.
-/
import FilterCriteria.Json

namespace FilterCriteria.Json

-- ============================================================= scalars

/-- The four characters that may stand between tokens. -/
def isSpace (c : Char) : Bool :=
  c == ' ' || c == '\n' || c == '\t' || c == '\r'

def skipSpace (cs : List Char) : List Char :=
  cs.dropWhile isSpace

/-- A run of digits in front, and what follows it. -/
def digitRun (cs : List Char) : List Char × List Char :=
  (cs.takeWhile isDigit, cs.dropWhile isDigit)

/-- Reads digits of which there has to be one at least. -/
def someDigits? (cs : List Char) : Option (List Char × List Char) :=
  match digitRun cs with
  | ([], _) => none
  | run => some run

/-- Reads the whole part of a number: a zero stands alone. -/
def wholePart? (cs : List Char) : Option (List Char × List Char) :=
  match someDigits? cs with
  | some ('0' :: _ :: _, _) => none
  | run => run

/-- Reads the fraction of a number, if there is a point. -/
def fractionPart? : List Char → Option (List Char × List Char)
  | '.' :: cs => someDigits? cs
  | cs => some ([], cs)

/-- Reads the digits of an exponent, after its sign. -/
def exponentDigits? (negative : Bool) (cs : List Char) :
    Option (Option Int × List Char) :=
  (someDigits? cs).map fun (ds, rest) =>
    let n : Int := ofDigits ds
    (some (if negative then -n else n), rest)

/-- Reads the exponent of a number, if there is one. -/
def exponentPart? : List Char → Option (Option Int × List Char)
  | c :: cs =>
    if c == 'e' || c == 'E' then
      match cs with
      | '+' :: cs => exponentDigits? false cs
      | '-' :: cs => exponentDigits? true cs
      | cs => exponentDigits? false cs
    else some (none, c :: cs)
  | [] => some (none, [])

/-- Reads a number. -/
def number? (cs : List Char) : Option (Number × List Char) := do
  let (negative, cs) := match cs with
    | '-' :: cs => (true, cs)
    | cs => (false, cs)
  let (whole, cs) ← wholePart? cs
  let (fraction, cs) ← fractionPart? cs
  let (exponent, cs) ← exponentPart? cs
  pure (⟨negative, whole, fraction, exponent⟩, cs)

/-- The value of a hexadecimal digit. -/
def hexValue? (c : Char) : Option Nat :=
  let n := c.toNat
  if 48 ≤ n ∧ n ≤ 57 then some (n - 48)
  else if 65 ≤ n ∧ n ≤ 70 then some (n - 55)
  else if 97 ≤ n ∧ n ≤ 102 then some (n - 87)
  else none

/-- Reads the four digits of an escaped code unit. -/
def codeUnit? : List Char → Option (Nat × List Char)
  | a :: b :: c :: d :: rest => do
    let a ← hexValue? a
    let b ← hexValue? b
    let c ← hexValue? c
    let d ← hexValue? d
    pure (((a * 16 + b) * 16 + c) * 16 + d, rest)
  | _ => none

/-- The character that a letter escapes. -/
def escapedChar? (c : Char) : Option Char :=
  match c with
  | '\x22' => some '\x22'
  | '\x5c' => some '\x5c'
  | '/' => some '/'
  | 'b' => some '\x08'
  | 'f' => some '\x0c'
  | 'n' => some '\n'
  | 'r' => some '\r'
  | 't' => some '\t'
  | _ => none

/-- One unit of a string: a character, or half a surrogate pair. -/
inductive StringUnit where
  | char (c : Char)
  | high (n : Nat)
  | low (n : Nat)

/-- The unit that a code unit stands for. -/
def StringUnit.ofCode (n : Nat) : StringUnit :=
  if 0xD800 ≤ n ∧ n < 0xDC00 then .high n
  else if 0xDC00 ≤ n ∧ n < 0xE000 then .low n
  else .char (Char.ofNat n)

/-- The text of units: the halves of pairs have to meet. -/
def unitsText? : List StringUnit → Option (List Char)
  | [] => some []
  | .char c :: rest => (unitsText? rest).map (c :: ·)
  | .high m :: .low n :: rest =>
    let c := Char.ofNat (0x10000 + (m - 0xD800) * 0x400 + (n - 0xDC00))
    (unitsText? rest).map (c :: ·)
  | _ => none

/-- Reads the units of a string up to its closing quote. The fuel is at
least the number of characters. -/
def units? : (fuel : Nat) → List Char → Option (List StringUnit × List Char)
  | 0, _ => none
  | fuel + 1, cs =>
    let onward (u : StringUnit) (rest : List Char) :=
      (units? fuel rest).map fun (us, rest) => (u :: us, rest)
    match cs with
    | [] => none
    | '\x22' :: rest => some ([], rest)
    | '\x5c' :: 'u' :: rest => do
      let (n, rest) ← codeUnit? rest
      onward (.ofCode n) rest
    | '\x5c' :: c :: rest => do
      let c ← escapedChar? c
      onward (.char c) rest
    | c :: rest =>
      if c.toNat < 0x20 || c == '\x5c' then none else onward (.char c) rest

/-- Reads a string, after its opening quote. -/
def string? (cs : List Char) : Option (Option String × List Char) :=
  (units? (cs.length + 1) cs).map fun (us, rest) =>
    ((unitsText? us).map String.ofList, rest)

/-- Reads a word. -/
def word? (word : String) (cs : List Char) : Option (List Char) :=
  if word.toList.isPrefixOf cs then some (cs.drop word.length) else none

-- ============================================================== values

mutual

/-- Reads a value, after blanks. The fuel goes down by one at every call,
of which there are fewer than two for every character. -/
def value? : (fuel : Nat) → List Char → Option (Json × List Char)
  | 0, _ => none
  | fuel + 1, cs =>
    match skipSpace cs with
    | '[' :: rest =>
      match skipSpace rest with
      | ']' :: rest => some (.array [], rest)
      | rest => (items? fuel rest).map fun (js, rest) => (.array js, rest)
    | '\x7b' :: rest =>
      match skipSpace rest with
      | '\x7d' :: rest => some (.object [], rest)
      | rest => (members? fuel rest).map fun (ms, rest) => (.object ms, rest)
    | '\x22' :: rest => (string? rest).map fun (s, rest) => (.string s, rest)
    | 'n' :: rest => (word? "ull" rest).map fun rest => (.null, rest)
    | 't' :: rest => (word? "rue" rest).map fun rest => (.bool true, rest)
    | 'f' :: rest => (word? "alse" rest).map fun rest => (.bool false, rest)
    | cs => (number? cs).map fun (n, rest) => (.number n, rest)

/-- Reads the items of an array, one at least, up to the closing bracket. -/
def items? : (fuel : Nat) → List Char → Option (List Json × List Char)
  | 0, _ => none
  | fuel + 1, cs => do
    let (j, rest) ← value? fuel cs
    match skipSpace rest with
    | ',' :: rest =>
      let (js, rest) ← items? fuel rest
      pure (j :: js, rest)
    | ']' :: rest => pure ([j], rest)
    | _ => none

/-- Reads the members of an object, one at least, up to the closing
brace. -/
def members? : (fuel : Nat) → List Char →
    Option (List (Option String × Json) × List Char)
  | 0, _ => none
  | fuel + 1, cs => do
    let .cons '\x22' rest := skipSpace cs | none
    let (name, rest) ← string? rest
    let .cons ':' rest := skipSpace rest | none
    let (j, rest) ← value? fuel rest
    match skipSpace rest with
    | ',' :: rest =>
      let (ms, rest) ← members? fuel rest
      pure ((name, j) :: ms, rest)
    | '\x7d' :: rest => pure ([(name, j)], rest)
    | _ => none

end

/-- Reads a whole text. -/
def parse? (text : String) : Option Json := do
  let cs := text.toList
  let (j, rest) ← value? (2 * cs.length + 2) cs
  if (skipSpace rest).isEmpty then pure j else none

end FilterCriteria.Json
