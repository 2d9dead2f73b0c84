/-
The shortest decimal that reads back as a given binary number. The numbers
that round to it fill an interval; of the decimals with the fewest digits
inside, the one nearest to the number is chosen, in exact arithmetic.
-/
import FilterCriteria.Number.Binary
import FilterCriteria.Number.Digits

namespace FilterCriteria

-- ============================================================ decimals

/-- The decimal `0.d₁d₂… * 10 ^ point`. -/
structure Decimal where
  digits : List Char
  point : Int
deriving DecidableEq

/-- The decimal `n * 10 ^ e`, without zeros at its end. -/
def Decimal.ofScaled (n : Nat) (e : Int) : Decimal :=
  let ds := decimalDigits n
  ⟨(ds.reverse.dropWhile (· == '0')).reverse, e + ds.length⟩

-- ==================================================== the search by length

/-- Which of two equally near decimals is taken. -/
inductive Tie where
  | up
  | even
deriving DecidableEq

/-- The place of the decimal point of `m * 2 ^ q`, that is the least `p`
with `m * 2 ^ q < 10 ^ p`. The number times `10 ^ 400` has at least one
digit before the point in either format. -/
def decimalPoint (m : Nat) (q : Int) : Int :=
  let n := m * Nat.pow 10 400 * Nat.pow 2 q.toNat / Nat.pow 2 (-q).toNat
  ((decimalDigits n).length : Int) - 400

/-- The decimal with `k` digits nearest to `m * 2 ^ q` among those that
round to it, if there is one; `point` is the number's decimal point. Of the
multiples of `10 ^ (point - k)` only the two around the number can qualify.
The interval reaches half the gap to the next number on either side, the gap
below a power of two being half the one above, and its ends belong to it
when `m` is even. -/
def shortestWith? (f : BinaryFormat) (tie : Tie) (m : Nat) (q point : Int)
    (k : Nat) : Option Decimal :=
  let below :=
    if m = Nat.pow 2 f.fractionBits ∧ f.minExponent < q then 1 else 2
  -- numbers are compared as numerators over `den`, from quarters of a gap
  let scaled (x : Nat) :=
    x * Nat.pow 2 (q - 2).toNat * Nat.pow 10 (k - point).toNat
  let den := Nat.pow 2 (2 - q).toNat * Nat.pow 10 (point - k).toNat
  let n := scaled (4 * m) / den
  let inside (x y : Nat) : Bool := if m % 2 = 0 then x ≤ y else x < y
  let lower := inside (scaled (4 * m - below)) (n * den)
  let upper := inside ((n + 1) * den) (scaled (4 * m + 2))
  let nearer :=
    match compare (2 * scaled (4 * m)) ((2 * n + 1) * den) with
    | .lt => n
    | .gt => n + 1
    | .eq => match tie with
      | .up => n + 1
      | .even => n + n % 2
  match lower, upper with
  | true, true => some (.ofScaled nearer (point - k))
  | true, false => some (.ofScaled n (point - k))
  | false, true => some (.ofScaled (n + 1) (point - k))
  | false, false => none

/-- The shortest decimal that rounds to the positive number `m * 2 ^ q` of
the format. Seventeen digits tell any two doubles apart, so the last case
is not reached from a number of the format. -/
def shortest (f : BinaryFormat) (tie : Tie) (m : Nat) (q : Int) : Decimal :=
  let point := decimalPoint m q
  let ofLength (k : Nat) := shortestWith? f tie m q point (k + 1)
  match (List.range 17).findSome? ofLength with
  | some d => d
  | none => .ofScaled (m * Nat.pow 2 q.toNat) 0

end FilterCriteria
