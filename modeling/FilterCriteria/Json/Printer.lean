/-
JSON text: one line without blanks, or one line for every item, with two
blanks more at every level.
-/
import FilterCriteria.Json

namespace FilterCriteria.Json

-- ============================================================= scalars

/-- A number from 0 to 15 as a digit. -/
def hexDigit (n : Nat) : Char :=
  Char.ofNat (if n < 10 then 48 + n else 87 + n)

/-- A character inside a string. -/
def escaped (c : Char) : List Char :=
  if c = '\x22' then ['\x5c', '\x22']
  else if c = '\x5c' then ['\x5c', '\x5c']
  else if c = '\x08' then ['\x5c', 'b']
  else if c = '\t' then ['\x5c', 't']
  else if c = '\n' then ['\x5c', 'n']
  else if c = '\x0c' then ['\x5c', 'f']
  else if c = '\r' then ['\x5c', 'r']
  else if c.toNat < 0x20 then
    ['\x5c', 'u', '0', '0', hexDigit (c.toNat / 16), hexDigit (c.toNat % 16)]
  else [c]

/-- A string in quotes. One that is not text is written as an escape of
half a pair. -/
def stringText : Option String → String
  | some s => "\"" ++ String.ofList (s.toList.flatMap escaped) ++ "\""
  | none => "\"\\ud800\""

/-- A number; its exponent always shows its sign. -/
def numberText (n : Number) : String :=
  (if n.negative then "-" else "") ++ String.ofList n.whole
    ++ (if n.fraction.isEmpty then "" else "." ++ String.ofList n.fraction)
    ++ match n.exponent with
      | none => ""
      | some e => (if e < 0 then "e-" else "e+") ++ padded 0 e.natAbs

-- ============================================================ one line

mutual

/-- The text on one line. -/
def compact : Json → String
  | .null => "null"
  | .bool b => if b then "true" else "false"
  | .number n => numberText n
  | .string s => stringText s
  | .array items => "[" ++ String.intercalate "," (compactItems items) ++ "]"
  | .object members =>
    "\x7b" ++ String.intercalate "," (compactMembers members) ++ "\x7d"
termination_by structural j => j

def compactItems : List Json → List String
  | [] => []
  | j :: rest => j.compact :: compactItems rest
termination_by structural js => js

def compactMembers : List (Option String × Json) → List String
  | [] => []
  | (name, j) :: rest =>
    (stringText name ++ ":" ++ j.compact) :: compactMembers rest
termination_by structural js => js

end

-- ========================================================== many lines

/-- A new line with its indentation. -/
def newline (level : Nat) : String :=
  "\n" ++ String.ofList (List.replicate (2 * level) ' ')

/-- Items between brackets, one to a line; brackets with nothing inside
stay together. -/
def block (level : Nat) (opening closing : String) (items : List String) :
    String :=
  if items.isEmpty then opening ++ closing
  else
    opening ++ newline (level + 1)
      ++ String.intercalate ("," ++ newline (level + 1)) items
      ++ newline level ++ closing

mutual

/-- The text on many lines, for a value that stands at a level. -/
def prettyAt (level : Nat) : Json → String
  | .null => "null"
  | .bool b => if b then "true" else "false"
  | .number n => numberText n
  | .string s => stringText s
  | .array items => block level "[" "]" (prettyItems (level + 1) items)
  | .object members =>
    block level "\x7b" "\x7d" (prettyMembers (level + 1) members)
termination_by structural j => j

def prettyItems (level : Nat) : List Json → List String
  | [] => []
  | j :: rest => j.prettyAt level :: prettyItems level rest
termination_by structural js => js

def prettyMembers (level : Nat) :
    List (Option String × Json) → List String
  | [] => []
  | (name, j) :: rest =>
    (stringText name ++ ": " ++ j.prettyAt level) :: prettyMembers level rest
termination_by structural js => js

end

/-- The text on many lines. -/
def pretty (j : Json) : String :=
  j.prettyAt 0

end FilterCriteria.Json
