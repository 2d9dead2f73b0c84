/-
The number types of JSON numbers, in both directions. A number is an integer
only if it is written as one. A number that is not is read in floating
point: its leading digits as a 64-bit integer, scaled by a power of ten.
-/
import FilterCriteria.Json
import FilterCriteria.Number.Shortest

namespace FilterCriteria.Json

namespace Number

-- ============================================================= reading

/-- The largest number of 64 bits. -/
def maxSignificand : Nat := 0xffffffffffffffff

/-- Reads digits behind `n` for as long as the result stays in 64 bits, and
returns it with the digits left over. -/
def accumulate (n : Nat) : List Char → Nat × List Char
  | [] => (n, [])
  | c :: cs =>
    if 10 * n + digitValue c ≤ maxSignificand then
      accumulate (10 * n + digitValue c) cs
    else (n, c :: cs)

/-- The leading digits as an integer of 64 bits, and the power of ten that
scales it. Digits of the whole part that do not fit count for the scale
alone; digits of the fraction that do not fit do not count. -/
def significand (n : Number) : Nat × Int :=
  let (whole, dropped) := accumulate 0 n.whole
  let (all, ignored) := accumulate whole n.fraction
  let places : Int := (n.fraction.length : Int) - ignored.length
  (all, dropped.length - places + n.exponent.getD 0)

/-- A power of ten that a double can hold. -/
def powerOfTen (n : Nat) : Float :=
  Float.ofScientific 1 false n

/-- `x * 10 ^ e` by one multiplication or by at most two divisions, so not
always to the nearest double. What is too large is refused, and what is too
small is zero. -/
def scaled? (x : Float) (e : Int) : Option Float :=
  if e < -616 then some 0
  else if e < -308 then
    some (x / powerOfTen 308 / powerOfTen (-(e + 308)).toNat)
  else if e < 0 then some (x / powerOfTen (-e).toNat)
  else if e ≤ 308 then
    let y := x * powerOfTen e.toNat
    if y.isInf then none else some y
  else if x == 0 then some 0 else none

/-- The number as a double. -/
def toDouble? (n : Number) : Option Float := do
  let (m, e) := n.significand
  let x ← scaled? (Double.ofInt m) e
  pure (if n.negative then -x else x)

/-- The number as an integer. It has to be written as one, with a sign only
if it is not zero, and to fit 64 bits, without a sign bit where it has no
sign. -/
def toInt? (n : Number) : Option Int :=
  let m := ofDigits n.whole
  if !n.fraction.isEmpty || n.exponent.isSome then none
  else if n.negative then
    if 0 < m ∧ m ≤ 0x8000000000000000 then some (-m) else none
  else if m ≤ maxSignificand then some m
  else none

/-- The number as a single: an integer goes to the nearest one, any other
number by way of a double, and what is too large is infinite. -/
def toSingle? (n : Number) : Option Float32 :=
  match n.toInt? with
  | some m => some (Single.ofInt m)
  | none => n.toDouble?.map Double.toSingle

-- ============================================================= writing

/-- Where numbers of a format are written without an exponent: the lowest
and the highest place of the decimal point. -/
structure Layout where
  format : BinaryFormat
  lowest : Int
  highest : Int

/-- Doubles of `10 ^ -5` or more and less than `10 ^ 16` need no exponent. -/
def doubleLayout : Layout := ⟨.double, -4, 16⟩

/-- Singles of `10 ^ -6` or more and less than `10 ^ 13` need no exponent. -/
def singleLayout : Layout := ⟨.single, -5, 13⟩

/-- A decimal in a layout. Without an exponent at least one digit stands on
either side of the point; with one, a single digit stands before it. -/
def ofDecimal (l : Layout) (negative : Bool) (d : Decimal) : Number :=
  let n := d.digits.length
  if l.lowest ≤ d.point ∧ d.point ≤ l.highest then
    if d.point ≤ 0 then
      ⟨negative, ['0'],
        List.replicate (-d.point).toNat '0' ++ d.digits, none⟩
    else if n ≤ d.point then
      ⟨negative, d.digits ++ List.replicate (d.point - n).toNat '0',
        ['0'], none⟩
    else
      ⟨negative, d.digits.take d.point.toNat, d.digits.drop d.point.toNat,
        none⟩
  else
    ⟨negative, d.digits.take 1, d.digits.drop 1, some (d.point - 1)⟩

end Number

/-- A reading in a layout, with its shortest digits, an exact half going to
the even digit. What is not finite is null. -/
def ofReading (l : Number.Layout) : Reading → Json
  | .finite negative m q =>
    if m = 0 then .number ⟨negative, ['0'], ['0'], none⟩
    else .number (.ofDecimal l negative (shortest l.format .even m q))
  | _ => .null

def ofDouble (x : Float) : Json :=
  ofReading Number.doubleLayout (.ofDouble x)

def ofSingle (x : Float32) : Json :=
  ofReading Number.singleLayout (.ofSingle x)

end FilterCriteria.Json
