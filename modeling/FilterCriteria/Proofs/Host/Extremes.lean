/-
The greater and the lesser of two whole numbers, as the host finds them. Both
numbers go through doubles and the one that is found goes back, so 32-bit
numbers come back as they are. A 64-bit number comes back rounded to 53
significant bits, and at the upper end of its range not at all.

# There and back

On the way there, a number is rounded to the nearest double, a half to the
even one (`nearest`). Rounding keeps the order, so the greater of two doubles
is the double of the greater number, and the two numbers need not be looked
at again (`Double.value?_max_ofInt`). On the way back nothing is rounded any
more, but the number may not fit: the last 512 numbers below `2 ^ 63` round up
to it, and that is one more than 64 bits have. At the lower end there is no
such thing, as `-2 ^ 63` is a double itself.

`ThroughDouble` says what becomes of one number: when it comes back exactly,
when it comes back at all, and what it comes back as. The main statement
(`callMath_max_min`) applies it to the greater and the lesser of two.
-/
import FilterCriteria.Host.Math
import FilterCriteria.Proofs.Number.Digits
import FilterCriteria.Proofs.Number.Double

namespace FilterCriteria

open Double (nearest IsNearest)

-- ======================================================= fixed widths

theorem int32?_toInt (n : Int32) : int32? n.toInt = some n := by
  unfold int32?
  rw [if_pos ⟨n.le_toInt, n.toInt_lt⟩, Int32.ofInt_toInt]

/-- What does not fit into 64 bits is out of them at one end. -/
theorem lt_or_le_of_int64?_eq_none {n : Int} (h : int64? n = none) :
    n < -2 ^ 63 ∨ 2 ^ 63 ≤ n := by
  unfold int64? at h
  rw [ite_eq_right_iff] at h
  by_contra hfits
  cases h (by omega)

section Order

variable {α : Type} [LE α] [DecidableLE α] {f : α → Int}

/-- The greater of two numbers of a fixed width is the greater one as an
integer. -/
theorem apply_maxOfLe (hf : ∀ {a b : α}, a ≤ b ↔ f a ≤ f b) (a b : α) :
    f (maxOfLe.max a b) = max (f a) (f b) := by
  show f (if a ≤ b then b else a) = _
  rw [max_def, apply_ite f]
  simp only [hf]

theorem apply_minOfLe (hf : ∀ {a b : α}, a ≤ b ↔ f a ≤ f b) (a b : α) :
    f (minOfLe.min a b) = min (f a) (f b) := by
  show f (if a ≤ b then a else b) = _
  rw [min_def, apply_ite f]
  simp only [hf]

end Order

/-- A 32-bit number has no more than 53 significant bits, by far. -/
theorem natAbs_toInt_lt32 (n : Int32) : n.toInt.natAbs < 2 ^ 53 := by
  have hmin := n.le_toInt
  have hmax := n.toInt_lt
  omega

theorem natAbs_toInt_lt64 (n : Int64) : n.toInt.natAbs < 2 ^ 64 := by
  have hmin := n.le_toInt
  have hmax := n.toInt_lt
  omega

namespace Host

-- ===================================================== back from doubles

/-- What becomes of a 64-bit number on its way through a double. -/
structure ThroughDouble (n : Int64) (result : Except EvalError Value) :
    Prop where
  exact_iff : result = .ok (.long n) ↔ Significant 53 n.toInt
  succeeds_iff : (∃ v, result = .ok v) ↔ n.toInt < 2 ^ 63 - 512
  rounded : ∀ v, result = .ok v →
    ∃ r, v = .long r ∧ IsNearest n.toInt r.toInt
  overflow : ∀ e, result = .error e →
    ∃ x, e = .failed (.int64Overflow x)
      ∧ ∃ r : Int, (Reading.ofDouble x).value? = some (r : ℚ)
        ∧ IsNearest n.toInt r

variable {x : Float}

/-- A double that stands for a 32-bit number goes back to it. -/
theorem doubleToInt32_eq_ok {n : Int32}
    (hx : (Reading.ofDouble x).value? = some (n.toInt : ℚ)) :
    Value.doubleToInt32 x = .ok (.int n) := by
  unfold Value.doubleToInt32
  rw [Reading.toInt?_eq_some .towardZero hx, Option.bind_eq_bind,
    Option.bind_some, int32?_toInt]

/-- A double that stands for a number which fits goes back to it. -/
theorem doubleToInt64_eq_ok {n : Int} {r : Int64}
    (hx : (Reading.ofDouble x).value? = some (n : ℚ))
    (h : int64? n = some r) : Value.doubleToInt64 x = .ok (.long r) := by
  unfold Value.doubleToInt64
  rw [Reading.toInt?_eq_some .towardZero hx, Option.bind_eq_bind,
    Option.bind_some, h]

/-- The error of a number which does not fit names the double. -/
theorem doubleToInt64_eq_error {n : Int}
    (hx : (Reading.ofDouble x).value? = some (n : ℚ))
    (h : int64? n = none) :
    Value.doubleToInt64 x = .error (.failed (.int64Overflow x)) := by
  unfold Value.doubleToInt64
  rw [Reading.toInt?_eq_some .towardZero hx, Option.bind_eq_bind,
    Option.bind_some, h]

/-- Where the rounded number fits into 64 bits, it is the result: exact if
nothing was rounded off, and the nearest one otherwise. -/
theorem throughDouble_ok {n r : Int64} (hr : r.toInt = nearest n.toInt) :
    ThroughDouble n (.ok (.long r)) where
  exact_iff := by
    rw [← Double.nearest_eq_self_iff, ← hr, Int64.toInt_inj, Except.ok.injEq,
      Value.long.injEq]
  succeeds_iff := by
    rw [← Double.nearest_lt_iff, ← hr]
    exact ⟨fun _ => r.toInt_lt, fun _ => ⟨_, rfl⟩⟩
  rounded := by
    intro v hv
    cases hv
    refine ⟨r, rfl, ?_⟩
    rw [hr]
    exact Double.isNearest_nearest _
  overflow := by
    intro e he
    cases he

/-- Where the rounded number is beyond the end, the call fails, and this
happens only to numbers that are not exact: the end itself is one more than a
number of 64 bits can be. -/
theorem throughDouble_overflow {n : Int64}
    (hx : (Reading.ofDouble x).value? = some (nearest n.toInt : ℚ))
    (h : 2 ^ 63 ≤ nearest n.toInt) :
    ThroughDouble n (.error (.failed (.int64Overflow x))) where
  exact_iff := by
    rw [← Double.nearest_eq_self_iff]
    have := n.toInt_lt
    constructor
    · intro hok
      cases hok
    · omega
  succeeds_iff := by
    rw [← Double.nearest_lt_iff]
    constructor
    · intro hok
      obtain ⟨v, hv⟩ := hok
      cases hv
    · omega
  rounded := by
    intro v hv
    cases hv
  overflow := by
    intro e he
    cases he
    exact ⟨x, rfl, _, hx, Double.isNearest_nearest _⟩

/-- So the way back from a double is one of the two, by the size of the rounded
number. -/
theorem throughDouble_doubleToInt64 {n : Int64}
    (hx : (Reading.ofDouble x).value? = some (nearest n.toInt : ℚ)) :
    ThroughDouble n (Value.doubleToInt64 x) := by
  cases hback : int64? (nearest n.toInt) with
  | some r =>
      rw [doubleToInt64_eq_ok hx hback]
      exact throughDouble_ok (int64?_eq_some_iff.mp hback)
  | none =>
      rw [doubleToInt64_eq_error hx hback]
      -- rounding does not pass the least number, which is a power of two
      have hlow := Double.le_nearest n.le_toInt
      have hout := lt_or_le_of_int64?_eq_none hback
      exact throughDouble_overflow hx (by omega)

-- ============================================================ the calls

theorem callMath_max32 (a b : Int32) :
    callMath "Max" [.int a, .int b] = Value.doubleToInt32
      (Double.max (Double.ofInt a.toInt) (Double.ofInt b.toInt)) :=
  rfl

theorem callMath_min32 (a b : Int32) :
    callMath "Min" [.int a, .int b] = Value.doubleToInt32
      (Double.min (Double.ofInt a.toInt) (Double.ofInt b.toInt)) :=
  rfl

theorem callMath_max64 (a b : Int64) :
    callMath "Max" [.long a, .long b] = Value.doubleToInt64
      (Double.max (Double.ofInt a.toInt) (Double.ofInt b.toInt)) :=
  rfl

theorem callMath_min64 (a b : Int64) :
    callMath "Min" [.long a, .long b] = Value.doubleToInt64
      (Double.min (Double.ofInt a.toInt) (Double.ofInt b.toInt)) :=
  rfl

/-- Rounding leaves 32-bit numbers alone. -/
theorem nearest_toInt32 (n : Int32) : nearest n.toInt = n.toInt :=
  Double.nearest_of_significant
    ⟨n.toInt, 0, (mul_one _).symm, natAbs_toInt_lt32 n⟩

/-- The greater and the lesser of two 32-bit numbers are found exactly. Those
of two 64-bit numbers come back exactly where they have no more than 53
significant bits, else rounded, and from `2 ^ 63 - 512` on the call fails. -/
theorem callMath_max_min (m n : Int32) (a b : Int64) :
    (callMath "Max" [.int m, .int n] = .ok (.int (max m n))
      ∧ callMath "Min" [.int m, .int n] = .ok (.int (min m n)))
    ∧ ThroughDouble (max a b) (callMath "Max" [.long a, .long b])
    ∧ ThroughDouble (min a b) (callMath "Min" [.long a, .long b]) := by
  constructor
  · have hm := (natAbs_toInt_lt32 m).trans (show 2 ^ 53 < 2 ^ 64 by decide)
    have hn := (natAbs_toInt_lt32 n).trans (show 2 ^ 53 < 2 ^ 64 by decide)
    have hmax := Double.value?_max_ofInt hm hn
    have hmin := Double.value?_min_ofInt hm hn
    rw [← apply_maxOfLe Int32.le_iff_toInt_le, nearest_toInt32] at hmax
    rw [← apply_minOfLe Int32.le_iff_toInt_le, nearest_toInt32] at hmin
    rw [callMath_max32, callMath_min32]
    exact ⟨doubleToInt32_eq_ok hmax, doubleToInt32_eq_ok hmin⟩
  · have ha := natAbs_toInt_lt64 a
    have hb := natAbs_toInt_lt64 b
    have hmax := Double.value?_max_ofInt ha hb
    have hmin := Double.value?_min_ofInt ha hb
    rw [← apply_maxOfLe Int64.le_iff_toInt_le] at hmax
    rw [← apply_minOfLe Int64.le_iff_toInt_le] at hmin
    rw [callMath_max64, callMath_min64]
    exact ⟨throughDouble_doubleToInt64 hmax, throughDouble_doubleToInt64 hmin⟩

/-- The greater of `2 ^ 53 + 1` and zero is found to be `2 ^ 53`, and the lesser
of the greatest number and itself is not found at all. -/
theorem callMath_max_min_inexact :
    callMath "Max" [.long 9007199254740993, .long 0]
        = .ok (.long 9007199254740992)
      ∧ ∃ x, callMath "Min" [.long Int64.maxValue, .long Int64.maxValue]
        = .error (.failed (.int64Overflow x)) := by
  have hmax := Double.value?_max_ofInt
    (natAbs_toInt_lt64 9007199254740993) (natAbs_toInt_lt64 0)
  have hmin := Double.value?_min_ofInt
    (natAbs_toInt_lt64 Int64.maxValue) (natAbs_toInt_lt64 Int64.maxValue)
  rw [callMath_max64, callMath_min64]
  constructor
  · exact doubleToInt64_eq_ok hmax (by decide +kernel)
  · exact ⟨_, doubleToInt64_eq_error hmin (by decide +kernel)⟩

end Host

end FilterCriteria
