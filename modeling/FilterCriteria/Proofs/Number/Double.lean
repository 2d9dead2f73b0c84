/-
Doubles as the numbers that they stand for. What a reading stands for is a
rational number, so that the order of readings and their way back to whole
numbers are facts about numbers. The bits of a double are read again as they
were put in, and so the double of a whole number is that number rounded to 53
significant bits.

# From bits to numbers

A reading is what the bits of a double mean: a sign, a significand and an
exponent, or no number at all. `value?` is its number, and the operations of
the host on doubles are compared with those on numbers: the order
(`less_iff`), the way back to an integer (`toInt?_eq_some`), the greater and
the lesser of two (`value?_max`, `value?_min`).

# From numbers to bits

The double of a whole number is made by rounding its leading bits and putting
them into the fields of the format. What is put in is what is read again
(`value?_decode`), so it stands for the rounded number
(`Double.value?_ofInt`); that the rounding carries into the next power of two
is no case of its own, for the fields carry along.

The library is imported as a whole: its lemmas on packed and unpacked floats
are in none of its smaller modules.
-/
import Mathlib
import FilterCriteria.Proofs.Number.Rounding

namespace FilterCriteria

-- ============================================================ readings

namespace Reading

/-- The number that a reading stands for. -/
def value? : Reading → Option ℚ
  | .finite negative m q => some ((if negative then -1 else 1) * m * 2 ^ q)
  | _ => none

/-- What stands for a number is finite. -/
theorem value?_eq_some {r : Reading} {x : ℚ} (h : r.value? = some x) :
    ∃ negative m q, r = .finite negative m q
      ∧ (if negative then -1 else 1) * m * 2 ^ q = x := by
  cases r with
  | nan => cases h
  | infinite negative => cases h
  | finite negative m q => exact ⟨negative, m, q, rfl, Option.some.inj h⟩

/-- Scaled to a smaller unit, a reading stands for the same number. -/
theorem scaledTo_eq {e q : Int} (negative : Bool) (m : Nat) (h : e ≤ q) :
    (scaledTo e negative m q : ℚ) * 2 ^ e
      = (if negative then -1 else 1) * m * 2 ^ q := by
  have hpow : (2 : ℚ) ^ (q - e).toNat * 2 ^ e = 2 ^ q := by
    rw [← zpow_natCast, ← zpow_add₀ (by decide), Int.toNat_of_nonneg (by omega),
      Int.sub_add_cancel]
  simp only [scaledTo, Nat.pow_eq]
  rw [← hpow]
  cases negative with
  | true =>
      rw [if_pos rfl, if_pos rfl]
      push_cast
      ring
  | false =>
      rw [if_neg (by decide), if_neg (by decide)]
      push_cast
      ring

/-- The order of readings is that of the numbers. -/
theorem less_iff {r s : Reading} {x y : ℚ} (hr : r.value? = some x)
    (hs : s.value? = some y) : r.less s = true ↔ x < y := by
  obtain ⟨a, m, p, rfl, rfl⟩ := value?_eq_some hr
  obtain ⟨b, n, q, rfl, rfl⟩ := value?_eq_some hs
  have hpos : (0 : ℚ) < 2 ^ min p q := zpow_pos (by decide) _
  rw [← scaledTo_eq a m (min_le_left p q), ← scaledTo_eq b n (min_le_right p q),
    mul_lt_mul_iff_of_pos_right hpos, Int.cast_lt]
  simp only [less, decide_eq_true_eq]

/-- Nothing is rounded where there is no remainder, whatever the mode is. -/
theorem away_zero (mode : Rounding) (negative : Bool) (whole : Nat)
    {unit : Nat} (h : 0 < unit) :
    mode.away negative whole 0 unit = false := by
  cases mode <;> simp [Rounding.away, Nat.ne_of_gt h]

/-- A magnitude that is whole stays what it is. -/
theorem magnitude_eq (mode : Rounding) (negative : Bool) {m k : Nat} {q : Int}
    (h : (m : ℚ) * 2 ^ q = k) : mode.magnitude negative m q = k := by
  unfold Rounding.magnitude
  simp only [Nat.pow_eq]
  by_cases hq : 0 ≤ q
  · rw [if_pos hq]
    lift q to ℕ using hq
    rw [zpow_natCast] at h
    exact_mod_cast h
  · have hunit : m = k * 2 ^ (-q).toNat := by
      have hcast : (m : ℚ) = k * 2 ^ (-q).toNat := by
        rw [← h, ← zpow_natCast, Int.toNat_of_nonneg (by omega), mul_assoc,
          ← zpow_add₀ (by decide), add_neg_cancel, zpow_zero, mul_one]
      exact_mod_cast hcast
    have hpos := Nat.two_pow_pos (-q).toNat
    rw [if_neg hq, hunit, Nat.mul_mod_left, Nat.mul_div_left _ hpos,
      away_zero mode negative k hpos]
    rfl

/-- A reading that is a whole number rounds to it, whatever the mode. -/
theorem toInt?_eq_some {r : Reading} {n : Int} (mode : Rounding)
    (h : r.value? = some (n : ℚ)) : r.toInt? mode = some n := by
  obtain ⟨negative, m, q, rfl, hvalue⟩ := value?_eq_some h
  obtain ⟨k, hk⟩ : ∃ k : ℕ, (m : ℚ) * 2 ^ q = k := by
    refine ⟨n.natAbs, ?_⟩
    have hpos : (0 : ℚ) ≤ m * 2 ^ q := by positivity
    rw [Nat.cast_natAbs, Int.cast_abs, ← hvalue, mul_assoc, abs_mul,
      abs_of_nonneg hpos]
    cases negative <;> simp
  rw [mul_assoc, hk] at hvalue
  rw [toInt?, magnitude_eq mode negative hk, Option.some.injEq]
  cases negative with
  | true =>
      rw [if_pos rfl, neg_one_mul] at hvalue
      exact_mod_cast hvalue
  | false =>
      rw [if_neg (by decide), one_mul] at hvalue
      exact_mod_cast hvalue

end Reading

-- ============================================================= doubles

/-- The fields of a double, and what they stand for. -/
theorem decode_double (bits : Nat) :
    BinaryFormat.double.decode bits
      = if bits / 2 ^ 52 % 2 ^ 11 = 2047 then
          if bits % 2 ^ 52 = 0 then .infinite (bits / 2 ^ 63 % 2 == 1)
          else .nan
        else if bits / 2 ^ 52 % 2 ^ 11 = 0 then
          .finite (bits / 2 ^ 63 % 2 == 1) (bits % 2 ^ 52) (-1074)
        else
          .finite (bits / 2 ^ 63 % 2 == 1) (2 ^ 52 + bits % 2 ^ 52)
            (-1074 + (bits / 2 ^ 52 % 2 ^ 11 : Nat) - 1) := by
  rfl

open Float.Model Float.Model.UnpackedFloat in
/-- A bit pattern that is put into a double is read from it again; only what is
not a number gets a pattern of its own. -/
theorem Reading.ofDouble_ofBits (b : UInt64) :
    Reading.ofDouble (Float.ofBits b)
      = BinaryFormat.double.decode b.toNat := by
  show BinaryFormat.double.decode
    (pack .binary64 (unpack .binary64 b.toBitVec)).toNat = _
  rw [pack_unpack]
  -- packing again changes the pattern of a NaN only, to the quiet one
  split
  · next hnan =>
    rw [isNaNBits, decide_eq_true_iff] at hnan
    obtain ⟨hexponent, hfraction⟩ := hnan
    have he : b.toNat / 2 ^ 52 % 2 ^ 11 = 2047 := by
      simpa [unpackExponent, Nat.shiftRight_eq_div_pow]
        using congrArg BitVec.toNat hexponent
    have hf : b.toNat % 2 ^ 52 ≠ 0 := by
      intro h
      refine hfraction (BitVec.eq_of_toNat_eq ?_)
      simpa [unpackMantissa] using h
    have hquiet : BinaryFormat.double.decode
        (packedNaN .binary64).toNat = .nan := by
      decide +kernel
    rw [hquiet, decode_double, if_pos he, if_neg hf]
  · rfl

/-- A reading that is made a double is read again from its bits. -/
theorem Reading.ofDouble_toDouble {r : Reading}
    (h : BinaryFormat.double.encode r < 2 ^ 64) :
    Reading.ofDouble r.toDouble
      = BinaryFormat.double.decode (BinaryFormat.double.encode r) := by
  rw [Reading.toDouble, ofDouble_ofBits]
  congr 1
  exact Nat.mod_eq_of_lt h

/-- The bits of a whole number: the place of its leading bit, counted from that
of the least double, and the 53 bits from there on. -/
theorem magnitudeBits_ofNat {n : Nat} (hn : n ≠ 0) (hsmall : n.log2 < 64) :
    BinaryFormat.double.magnitudeBits n 0
      = (n.log2 + 1022) * 2 ^ 52 + significand n := by
  have hexponent : max ((0 : Int) + n.log2 - 52) (-1074) = n.log2 - 52 := by
    omega
  have hright : ((n.log2 : Int) - 52 - 0).toNat = spare n := by
    unfold spare
    omega
  have hleft : (0 - ((n.log2 : Int) - 52)).toNat = 52 - n.log2 := by
    omega
  have hplace : ((n.log2 : Int) - 52 - -1074).toNat = n.log2 + 1022 := by
    omega
  have hmax := (significand_bounds hn).2
  unfold BinaryFormat.magnitudeBits
  rw [if_neg hn]
  show min ((max ((0 : Int) + n.log2 - 52) (-1074) - -1074).toNat * 2 ^ 52
      + halfEvenShift
        (n * 2 ^ (0 - max ((0 : Int) + n.log2 - 52) (-1074)).toNat)
        (max ((0 : Int) + n.log2 - 52) (-1074) - 0).toNat)
    (2047 * 2 ^ 52) = _
  rw [hexponent, hright, hleft, hplace, ← significand]
  omega

/-- A place and a significand, as bits, stand for the significand at its
place. A carry out of the significand moves it to the next place. -/
theorem value?_decode (negative : Bool) {place n : Nat} (hplace : place < 2000)
    (hmin : 2 ^ 52 ≤ n) (hmax : n ≤ 2 ^ 53) :
    (BinaryFormat.double.decode (BinaryFormat.double.signBits negative
        + (place * 2 ^ 52 + n))).value?
      = some ((if negative then -1 else 1 : ℚ) * n
        * 2 ^ ((place : Int) - 1074)) := by
  have hsign : ∃ sign, sign < 2 ∧ (sign == 1) = negative
      ∧ BinaryFormat.double.signBits negative = sign * 2 ^ 63 := by
    cases negative with
    | true => exact ⟨1, by decide, rfl, rfl⟩
    | false => exact ⟨0, by decide, rfl, rfl⟩
  obtain ⟨sign, hsign, rfl, hbits⟩ := hsign
  rw [hbits, decode_double]
  generalize hpattern : sign * 2 ^ 63 + (place * 2 ^ 52 + n) = bits
  have hs : bits / 2 ^ 63 % 2 = sign := by omega
  rw [hs]
  rcases Nat.lt_or_eq_of_le hmax with hlt | rfl
  · have he : bits / 2 ^ 52 % 2 ^ 11 = place + 1 := by omega
    have hf : 2 ^ 52 + bits % 2 ^ 52 = n := by omega
    rw [he, if_neg (by omega), if_neg (by omega), hf]
    show some _ = some _
    congr 3
    push_cast
    ring
  · -- the significand rounded up to the next power of two: it carries into
    -- the exponent, and the fraction is left at zero
    have he : bits / 2 ^ 52 % 2 ^ 11 = place + 2 := by omega
    have hf : bits % 2 ^ 52 = 0 := by omega
    have hcarry : (2 : ℚ) ^ (-1074 + ((place + 2 : ℕ) : ℤ) - 1)
        = 2 ^ ((place : ℤ) - 1074) * 2 := by
      rw [← zpow_add_one₀ (by decide)]
      congr 1
      push_cast
      ring
    rw [he, if_neg (by omega), if_neg (by omega), hf]
    show some _ = some _
    rw [hcarry]
    push_cast
    congr 1
    ring

/-- The significand in units of its last place is the rounded number. -/
theorem cast_leading (n : Nat) :
    (significand n : ℚ) * 2 ^ ((n.log2 : ℤ) - 52) = leading n := by
  have hcast : (leading n : ℚ) * 2 ^ (52 - n.log2)
      = significand n * 2 ^ spare n := by
    exact_mod_cast leading_mul n
  have hsplit : (2 : ℚ) ^ spare n
      = 2 ^ ((n.log2 : ℤ) - 52) * 2 ^ (52 - n.log2) := by
    rw [← zpow_natCast, ← zpow_natCast, ← zpow_add₀ (by decide)]
    congr 1
    unfold spare
    omega
  rw [hsplit, ← mul_assoc] at hcast
  exact (mul_right_cancel₀ (by positivity) hcast).symm

/-- The double of a whole number is the nearest number of 53 significant
bits, for numbers that come near to 64 bits. -/
theorem Double.value?_ofInt {n : Int} (h : n.natAbs < 2 ^ 64) :
    (Reading.ofDouble (Double.ofInt n)).value? = some (Double.nearest n : ℚ) := by
  -- zero has no leading bit, so the patterns below do not cover it
  by_cases hn : n.natAbs = 0
  · have hzero : BinaryFormat.double.decode
        (BinaryFormat.double.encode (Reading.ofInt 0))
        = .finite false 0 (-1074) := by
      decide
    have hself : Double.nearest 0 = 0 := by
      decide
    rw [Int.natAbs_eq_zero.mp hn, Double.ofInt,
      Reading.ofDouble_toDouble (by decide), hzero, hself]
    simp [Reading.value?]
  have hlog := (Nat.log2_lt hn).mpr h
  obtain ⟨hmin, hmax⟩ := significand_bounds hn
  have hencode : BinaryFormat.double.encode (Reading.ofInt n)
      = BinaryFormat.double.signBits (n < 0)
        + ((n.natAbs.log2 + 1022) * 2 ^ 52 + significand n.natAbs) := by
    rw [← magnitudeBits_ofNat hn hlog]
    rfl
  have hsign : BinaryFormat.double.signBits (n < 0) ≤ 2 ^ 63 := by
    unfold BinaryFormat.signBits
    split
    · exact Nat.le_refl _
    · exact Nat.zero_le _
  rw [Double.ofInt, Reading.ofDouble_toDouble (by omega), hencode,
    value?_decode _ (by omega) hmin hmax, Option.some.injEq]
  have hplace : ((n.natAbs.log2 + 1022 : ℕ) : ℤ) - 1074 = n.natAbs.log2 - 52 := by
    omega
  rw [hplace, mul_assoc, cast_leading]
  unfold Double.nearest
  by_cases hneg : n < 0
  · simp [hneg]
  · simp [hneg]

namespace Double

/-- What stands for a number is one. -/
theorem isNaN_eq_false {x : Float} {v : ℚ}
    (hx : (Reading.ofDouble x).value? = some v) : x.isNaN = false := by
  have hnan : Reading.ofDouble Float.nan = .nan := by decide
  rw [Float.isNaN_eq_decide_eq_nan, decide_eq_false_iff_not]
  intro h
  rw [h, hnan] at hx
  cases hx

variable {x y : Float} {v w : ℚ}

/-- The greater of two doubles stands for the greater number. -/
theorem value?_max (hx : (Reading.ofDouble x).value? = some v)
    (hy : (Reading.ofDouble y).value? = some w) :
    (Reading.ofDouble (Double.max x y)).value? = some (Max.max v w) := by
  have hless := Reading.less_iff hx hy
  unfold Double.max Double.less
  rw [isNaN_eq_false hx, if_neg (by decide)]
  by_cases hlt : v < w
  · rw [if_pos (hless.mpr hlt), hy, max_eq_right hlt.le]
  · rw [if_neg (mt hless.mp hlt), hx, max_eq_left (not_lt.mp hlt)]

theorem value?_min (hx : (Reading.ofDouble x).value? = some v)
    (hy : (Reading.ofDouble y).value? = some w) :
    (Reading.ofDouble (Double.min x y)).value? = some (Min.min v w) := by
  have hless := Reading.less_iff hy hx
  unfold Double.min Double.less
  rw [isNaN_eq_false hx, if_neg (by decide)]
  by_cases hlt : w < v
  · rw [if_pos (hless.mpr hlt), hy, min_eq_right hlt.le]
  · rw [if_neg (mt hless.mp hlt), hx, min_eq_left (not_lt.mp hlt)]

theorem monotone_nearest : Monotone nearest :=
  fun _ _ => nearest_mono

/-- Rounding keeps the order, so it does not matter whether the greater one of
two numbers is taken before or after it. -/
theorem value?_max_ofInt {a b : Int} (ha : a.natAbs < 2 ^ 64)
    (hb : b.natAbs < 2 ^ 64) :
    (Reading.ofDouble (Double.max (Double.ofInt a) (Double.ofInt b))).value?
      = some (nearest (Max.max a b) : ℚ) := by
  rw [value?_max (value?_ofInt ha) (value?_ofInt hb),
    monotone_nearest.map_max, Int.cast_max]

theorem value?_min_ofInt {a b : Int} (ha : a.natAbs < 2 ^ 64)
    (hb : b.natAbs < 2 ^ 64) :
    (Reading.ofDouble (Double.min (Double.ofInt a) (Double.ofInt b))).value?
      = some (nearest (Min.min a b) : ℚ) := by
  rw [value?_min (value?_ofInt ha) (value?_ofInt hb),
    monotone_nearest.map_min, Int.cast_min]

/-- From half a place below the end of 64 bits on, numbers round out of it. -/
theorem nearest_lt_iff {n : Int} : nearest n < 2 ^ 63 ↔ n < 2 ^ 63 - 512 := by
  have hbelow : nearest (2 ^ 63 - 513) < 2 ^ 63 := by decide
  have habove : 2 ^ 63 ≤ nearest (2 ^ 63 - 512) := by decide
  constructor
  · intro h
    by_contra hn
    have := nearest_mono (not_lt.mp hn)
    omega
  · intro h
    have := nearest_mono (show n ≤ 2 ^ 63 - 513 by omega)
    omega

/-- Rounding does not pass the least number of 64 bits, as that is a power of
two. -/
theorem le_nearest {n : Int} (h : -2 ^ 63 ≤ n) : -2 ^ 63 ≤ nearest n := by
  have hself : nearest (-2 ^ 63) = -2 ^ 63 := by decide
  have := nearest_mono h
  omega

end Double

end FilterCriteria
