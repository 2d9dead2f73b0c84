/-
Blank characters, and text without the blanks around it.
-/

namespace FilterCriteria

/-- Is the character white space, in the sense of the Unicode property? -/
def isBlank (c : Char) : Bool :=
  let n := c.toNat
  (0x9 ≤ n && n ≤ 0xD) || n == 0x20 || n == 0x85 || n == 0xA0 || n == 0x1680
    || (0x2000 ≤ n && n ≤ 0x200A) || n == 0x2028 || n == 0x2029
    || n == 0x202F || n == 0x205F || n == 0x3000

/-- Drops the blanks in front. -/
def skipBlanks (cs : List Char) : List Char :=
  cs.dropWhile isBlank

/-- Drops the blanks at both ends. -/
def trimmed (s : String) : String :=
  String.ofList (skipBlanks (skipBlanks s.toList).reverse).reverse

end FilterCriteria
