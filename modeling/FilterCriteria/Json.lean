/-
Values of the interchange format JSON. Numbers keep their digits, so that
whoever reads one decides what number type it is for; objects keep the
order and the repetitions of their members.
-/
import FilterCriteria.Number.Digits

namespace FilterCriteria

/-- A number as it is written: `-whole.fraction e exponent`. The digits of
the fraction are empty where there is no point. -/
structure Json.Number where
  negative : Bool
  whole : List Char
  fraction : List Char
  exponent : Option Int
deriving DecidableEq

/-- A JSON value. A string is `none` when it escapes one half of a
surrogate pair without the other: that is legal JSON, but not text. The
same goes for the names of an object's members. -/
inductive Json where
  | null
  | bool (b : Bool)
  | number (n : Json.Number)
  | string (s : Option String)
  | array (items : List Json)
  | object (members : List (Option String × Json))

namespace Json

instance : Inhabited Json := ⟨.null⟩

def ofString (s : String) : Json :=
  .string (some s)

/-- An object with these members, in this order. -/
def ofMembers (members : List (String × Json)) : Json :=
  .object (members.map fun m => (some m.1, m.2))

/-- An object with a single member. -/
def tagged (name : String) (value : Json) : Json :=
  .object [(some name, value)]

/-- An integer, without a fraction or an exponent. -/
def ofInt (n : Int) : Json :=
  .number ⟨n < 0, decimalDigits n.natAbs, [], none⟩

def isNull : Json → Bool
  | .null => true
  | _ => false

end Json

end FilterCriteria
