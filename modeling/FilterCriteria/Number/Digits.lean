/-
Decimal digits of natural numbers and machine integers, and the checked
steps from unbounded integers back to 32 and 64 bits.
-/

namespace FilterCriteria

-- ============================================================== digits

/-- The decimal digits of `n`, most significant first; `0` has one. -/
def decimalDigits (n : Nat) : List Char :=
  Nat.toDigits 10 n

/-- `n` in decimal, with zeros in front up to `width` characters. -/
def padded (width n : Nat) : String :=
  let ds := decimalDigits n
  String.ofList (List.replicate (width - ds.length) '0' ++ ds)

/-- An integer in decimal, with a minus sign exactly when it is negative. -/
def intText (n : Int) : String :=
  if n < 0 then "-" ++ padded 0 n.natAbs else padded 0 n.natAbs

/-- Is the character one of the ten decimal digits? -/
def isDigit (c : Char) : Bool :=
  '0'.toNat ≤ c.toNat && c.toNat ≤ '9'.toNat

/-- The number a digit stands for. -/
def digitValue (c : Char) : Nat :=
  c.toNat - '0'.toNat

/-- The number that a run of digits stands for. -/
def ofDigits (ds : List Char) : Nat :=
  ds.foldl (fun n c => 10 * n + digitValue c) 0

-- ===================================================== checked narrowing

/-- The 32-bit integer equal to `n`, if there is one. -/
def int32? (n : Int) : Option Int32 :=
  if -0x80000000 ≤ n ∧ n < 0x80000000 then some (Int32.ofInt n) else none

/-- The 64-bit integer equal to `n`, if there is one. -/
def int64? (n : Int) : Option Int64 :=
  if -0x8000000000000000 ≤ n ∧ n < 0x8000000000000000 then
    some (Int64.ofInt n)
  else none

end FilterCriteria
