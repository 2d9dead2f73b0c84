/-
Binary floating-point numbers, read exactly. A reading says what a bit
pattern stands for; rounding to a whole number and rounding to a format
are integer arithmetic on readings, so nothing here depends on the
floating-point unit.
-/

namespace FilterCriteria

-- ============================================================= formats

/-- The layout of a binary interchange format. -/
structure BinaryFormat where
  fractionBits : Nat
  exponentBits : Nat

namespace BinaryFormat

/-- Double precision. -/
def double : BinaryFormat := ⟨52, 11⟩

/-- Single precision. -/
def single : BinaryFormat := ⟨23, 8⟩

/-- The exponent of the least positive number of the format. -/
def minExponent (f : BinaryFormat) : Int :=
  2 - Nat.pow 2 (f.exponentBits - 1) - f.fractionBits

/-- The bit pattern of positive infinity. -/
def infinityBits (f : BinaryFormat) : Nat :=
  (Nat.pow 2 f.exponentBits - 1) * Nat.pow 2 f.fractionBits

/-- The sign bit, as a number to be added to a magnitude's bits. -/
def signBits (f : BinaryFormat) (negative : Bool) : Nat :=
  if negative then Nat.pow 2 (f.fractionBits + f.exponentBits) else 0

end BinaryFormat

-- ============================================================ readings

/-- What a bit pattern stands for. The number of `finite n m q` is
`m * 2 ^ q`, negated when `n` holds; zero keeps its sign. -/
inductive Reading where
  | nan
  | infinite (negative : Bool)
  | finite (negative : Bool) (mantissa : Nat) (exponent : Int)
deriving DecidableEq

/-- Reads a bit pattern of the format. -/
def BinaryFormat.decode (f : BinaryFormat) (bits : Nat) : Reading :=
  let fraction := bits % Nat.pow 2 f.fractionBits
  let exponent := bits / Nat.pow 2 f.fractionBits % Nat.pow 2 f.exponentBits
  let sign := bits / Nat.pow 2 (f.fractionBits + f.exponentBits) % 2
  let negative := sign == 1
  if exponent = Nat.pow 2 f.exponentBits - 1 then
    if fraction = 0 then .infinite negative else .nan
  else if exponent = 0 then
    .finite negative fraction f.minExponent
  else
    .finite negative (Nat.pow 2 f.fractionBits + fraction)
      (f.minExponent + exponent - 1)

/-- `n / 2 ^ k`, rounded to the nearest number, a half to the even one. -/
def halfEvenShift (n k : Nat) : Nat :=
  let unit := Nat.pow 2 k
  let whole := n / unit
  let rest := n % unit
  if 2 * rest < unit then whole
  else if 2 * rest = unit then whole + whole % 2
  else whole + 1

/-- The bits of the format's number nearest to `m * 2 ^ q`. A carry out of
the fraction runs into the exponent field, which is what it should do. -/
def BinaryFormat.magnitudeBits (f : BinaryFormat) (m : Nat) (q : Int) : Nat :=
  if m = 0 then 0
  else
    let e := max (q + m.log2 - f.fractionBits) f.minExponent
    let n := halfEvenShift (m * Nat.pow 2 (q - e).toNat) (e - q).toNat
    min ((e - f.minExponent).toNat * Nat.pow 2 f.fractionBits + n)
      f.infinityBits

/-- The bits of the format's number nearest to a reading. -/
def BinaryFormat.encode (f : BinaryFormat) : Reading → Nat
  | .nan => f.infinityBits + Nat.pow 2 (f.fractionBits - 1)
  | .infinite negative => f.signBits negative + f.infinityBits
  | .finite negative m q => f.signBits negative + f.magnitudeBits m q

/-- How a number is rounded to a whole one. -/
inductive Rounding where
  | towardZero
  | down
  | up
  | halfAway
  | halfEven
deriving DecidableEq

/-- Does the magnitude `whole + rest / unit` round away from zero? -/
def Rounding.away (mode : Rounding) (negative : Bool)
    (whole rest unit : Nat) : Bool :=
  match mode with
  | .towardZero => false
  | .down => negative && 0 < rest
  | .up => !negative && 0 < rest
  | .halfAway => unit ≤ 2 * rest
  | .halfEven => unit < 2 * rest || (unit == 2 * rest && whole % 2 == 1)

/-- The magnitude of `m * 2 ^ q` rounded to a whole number. -/
def Rounding.magnitude (mode : Rounding) (negative : Bool)
    (m : Nat) (q : Int) : Nat :=
  if 0 ≤ q then m * Nat.pow 2 q.toNat
  else
    let unit := Nat.pow 2 (-q).toNat
    if mode.away negative (m / unit) (m % unit) unit then m / unit + 1
    else m / unit

namespace Reading

def ofDouble (x : Float) : Reading :=
  BinaryFormat.double.decode x.toBits.toNat

def ofSingle (x : Float32) : Reading :=
  BinaryFormat.single.decode x.toBits.toNat

/-- The double nearest to a reading. -/
def toDouble (r : Reading) : Float :=
  Float.ofBits (BinaryFormat.double.encode r).toUInt64

/-- The single nearest to a reading. -/
def toSingle (r : Reading) : Float32 :=
  Float32.ofBits (BinaryFormat.single.encode r).toUInt32

def ofInt (n : Int) : Reading :=
  .finite (n < 0) n.natAbs 0

/-- Rounds to a whole number. What is not finite stays as it is, and so
does the sign, also of a result that is zero. -/
def rounded (mode : Rounding) : Reading → Reading
  | .finite negative m q => .finite negative (mode.magnitude negative m q) 0
  | r => r

/-- The whole number that a finite reading rounds to. -/
def toInt? (mode : Rounding) : Reading → Option Int
  | .finite negative m q =>
    let n : Int := mode.magnitude negative m q
    some (if negative then -n else n)
  | _ => none

/-- The integer a reading is equal to, if it is one. -/
def whole? : Reading → Option Int
  | .finite negative m q =>
    if m % Nat.pow 2 (-q).toNat = 0 then
      toInt? .towardZero (.finite negative m q)
    else none
  | _ => none

/-- A finite reading as a multiple of `2 ^ e`, for an `e` not above its
exponent. -/
def scaledTo (e : Int) (negative : Bool) (m : Nat) (q : Int) : Int :=
  let n : Int := m * Nat.pow 2 (q - e).toNat
  if negative then -n else n

/-- The order of numbers. Nothing is below or above what is not a number,
and the two zeros are equal. -/
def less : Reading → Reading → Bool
  | .nan, _ | _, .nan => false
  | .infinite a, .infinite b => a && !b
  | .infinite a, .finite .. => a
  | .finite .., .infinite b => !b
  | .finite a m p, .finite b n q =>
    let e := min p q
    scaledTo e a m p < scaledTo e b n q

end Reading

-- =============================================== doubles and singles

namespace Double

/-- The double nearest to an integer. -/
def ofInt (n : Int) : Float :=
  (Reading.ofInt n).toDouble

/-- A single, which every double format can hold. -/
def ofSingle (x : Float32) : Float :=
  (Reading.ofSingle x).toDouble

/-- The single nearest to a double. -/
def toSingle (x : Float) : Float32 :=
  (Reading.ofDouble x).toSingle

/-- Rounds to a whole number. -/
def rounded (mode : Rounding) (x : Float) : Float :=
  ((Reading.ofDouble x).rounded mode).toDouble

def less (x y : Float) : Bool :=
  (Reading.ofDouble x).less (Reading.ofDouble y)

/-- The greater of two numbers, and the only number of two where one is
none. Of two equal ones it is the first. -/
def max (x y : Float) : Float :=
  if x.isNaN then y else if less x y then y else x

/-- The lesser of two numbers, with the rules of `max`. -/
def min (x y : Float) : Float :=
  if x.isNaN then y else if less y x then y else x

end Double

/-- The single nearest to an integer. -/
def Single.ofInt (n : Int) : Float32 :=
  (Reading.ofInt n).toSingle

end FilterCriteria
