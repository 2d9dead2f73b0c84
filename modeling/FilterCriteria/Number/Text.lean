/-
Floating-point numbers in text: the shortest digits that read back, always
written without an exponent.
-/
import FilterCriteria.Number.Shortest

namespace FilterCriteria

/-- A positional decimal: a zero stands before the point where no digit
does, and there is no point without a digit after it. -/
def Decimal.positional (d : Decimal) : String :=
  let n := d.digits.length
  if d.point ≤ 0 then
    "0." ++ String.ofList (List.replicate (-d.point).toNat '0' ++ d.digits)
  else if n ≤ d.point then
    String.ofList (d.digits ++ List.replicate (d.point - n).toNat '0')
  else
    String.ofList (d.digits.take d.point.toNat) ++ "."
      ++ String.ofList (d.digits.drop d.point.toNat)

/-- A minus sign, or nothing. -/
def signText (negative : Bool) : String :=
  if negative then "-" else ""

/-- The text of a reading of the format: all its digits are positional and
exact halves go up. -/
def Reading.text (f : BinaryFormat) : Reading → String
  | .nan => "NaN"
  | .infinite negative => signText negative ++ "inf"
  | .finite negative m q =>
    signText negative ++
      if m = 0 then "0" else (shortest f .up m q).positional

def Double.text (x : Float) : String :=
  (Reading.ofDouble x).text .double

def Single.text (x : Float32) : String :=
  (Reading.ofSingle x).text .single

/-- The text of a double in a literal: a whole number below `10 ^ 15` shows
one zero after the point. -/
def Double.literalText (x : Float) : String :=
  let r := Reading.ofDouble x
  match r, r.whole? with
  | .finite negative _ _, some n =>
    if n.natAbs < 1000000000000000 then
      signText negative ++ padded 0 n.natAbs ++ ".0"
    else r.text .double
  | r, _ => r.text .double

end FilterCriteria
