/-
Whole numbers that are rounded to 53 significant bits, a half to the even one.
The rounding is an integer division by the unit of the last place that is
kept; it keeps the order of numbers, leaves alone what has no more bits than
these, and takes everything else to a nearest number that has not.

# One unit

For a fixed unit the facts are those of a division with a remainder, and
there are two cases, the quotient or the next number
(`halfEvenShift_cases`). Everything about a single rounding follows from the
two: that it keeps the order, that it goes to a nearest multiple of the unit,
and that a half goes to an even one.

# Any number

The unit depends on the number, by its leading place, so larger numbers are
rounded more coarsely. Between numbers of different units lies a power of two,
and rounding does not pass it from either side (`leading_bounds`). A number
with 53 significant bits that is as near as the rounded one has nothing in the
places that are cut off (`dvd_of_natAbs_le`), so it is a multiple of the unit
and no nearer (`leading_nearest`).
-/
import Mathlib.Tactic.Ring
import FilterCriteria.Number.Binary

namespace FilterCriteria

-- ======================================================== half to even

/-- The quotient goes to the next number at a half or above, and stays at a
half or below. -/
theorem halfEvenShift_cases (n k : Nat) :
    (halfEvenShift n k = n / 2 ^ k ∧ 2 * (n % 2 ^ k) ≤ 2 ^ k)
      ∨ (halfEvenShift n k = n / 2 ^ k + 1 ∧ 2 ^ k ≤ 2 * (n % 2 ^ k)) := by
  simp only [halfEvenShift, Nat.pow_eq]
  split
  · left
    omega
  · split
    · omega
    · right
      omega

/-- A half goes to an even number. -/
theorem halfEvenShift_half {n k : Nat} (h : 2 * (n % 2 ^ k) = 2 ^ k) :
    halfEvenShift n k % 2 = 0 := by
  simp only [halfEvenShift, Nat.pow_eq]
  rw [if_neg (by omega), if_pos h]
  omega

/-- What is a multiple of the unit is divided without a rest. -/
theorem halfEvenShift_mul (m k : Nat) : halfEvenShift (m * 2 ^ k) k = m := by
  have hunit := Nat.two_pow_pos k
  simp only [halfEvenShift, Nat.pow_eq, Nat.mul_mod_left,
    Nat.mul_div_left _ hunit, Nat.mul_zero, hunit, if_true]

/-- Rounding keeps the order. -/
theorem halfEvenShift_mono {m n : Nat} (k : Nat) (h : m ≤ n) :
    halfEvenShift m k ≤ halfEvenShift n k := by
  have hquotient := Nat.div_le_div_right (c := 2 ^ k) h
  have hn := halfEvenShift_cases n k
  rcases halfEvenShift_cases m k with ⟨hm, -⟩ | ⟨hm, hhalf⟩
  · omega
  · -- if `m` goes up and has the quotient of `n`, then `n` goes up with it
    rcases Nat.lt_or_eq_of_le h with hlt | rfl
    · have hmsplit := Nat.div_add_mod m (2 ^ k)
      have hnsplit := Nat.div_add_mod n (2 ^ k)
      rcases Nat.lt_or_eq_of_le hquotient with hless | hsame
      · omega
      · rw [hsame] at hmsplit
        omega
    · exact Nat.le_refl _

/-- The two multiples of the unit around `n` have no other between them. -/
theorem multiple_le_or_le (n k j : Nat) :
    j * 2 ^ k ≤ n / 2 ^ k * 2 ^ k ∨ n / 2 ^ k * 2 ^ k + 2 ^ k ≤ j * 2 ^ k := by
  rcases Nat.lt_or_ge (n / 2 ^ k) j with hj | hj
  · right
    rw [← Nat.succ_mul]
    exact Nat.mul_le_mul_right _ hj
  · left
    exact Nat.mul_le_mul_right _ hj

/-- No multiple of the unit is nearer. -/
theorem halfEvenShift_nearest (n k j : Nat) :
    ((n : Int) - (halfEvenShift n k * 2 ^ k : Nat)).natAbs
      ≤ ((n : Int) - (j * 2 ^ k : Nat)).natAbs := by
  have hsplit := Nat.div_add_mod' n (2 ^ k)
  have hrest := Nat.mod_lt n (Nat.two_pow_pos k)
  have hside := multiple_le_or_le n k j
  rcases halfEvenShift_cases n k with ⟨hshift, hhalf⟩ | ⟨hshift, hhalf⟩
  · rw [hshift]
    omega
  · rw [hshift, Nat.succ_mul]
    omega

/-- Where another multiple of the unit is as near, the quotient is even. -/
theorem halfEvenShift_even {n k j : Nat}
    (hne : j * 2 ^ k ≠ halfEvenShift n k * 2 ^ k)
    (htie : ((n : Int) - (j * 2 ^ k : Nat)).natAbs
      = ((n : Int) - (halfEvenShift n k * 2 ^ k : Nat)).natAbs) :
    halfEvenShift n k % 2 = 0 := by
  refine halfEvenShift_half ?_
  have hsplit := Nat.div_add_mod' n (2 ^ k)
  have hrest := Nat.mod_lt n (Nat.two_pow_pos k)
  have hside := multiple_le_or_le n k j
  rcases halfEvenShift_cases n k with ⟨hshift, hhalf⟩ | ⟨hshift, hhalf⟩
  · rw [hshift] at hne htie
    omega
  · rw [hshift, Nat.succ_mul] at hne htie
    omega

-- ================================================ 53 significant bits

/-- The number of places that are below the 53 leading ones. -/
def spare (n : Nat) : Nat :=
  n.log2 - 52

/-- A natural number with its 53 leading places, rounded. -/
def leading (n : Nat) : Nat :=
  halfEvenShift n (spare n) * 2 ^ spare n

/-- A number of no more than 53 bits has nothing to round. -/
theorem leading_eq_self {n : Nat} (h : n < 2 ^ 53) : leading n = n := by
  have hspare : spare n = 0 := by
    by_cases hn : n = 0
    · rw [hn]
      rfl
    · have := (Nat.log2_lt hn).mpr h
      unfold spare
      omega
  have hself := halfEvenShift_mul n 0
  rw [pow_zero, mul_one] at hself
  rw [leading, hspare, pow_zero, mul_one, hself]

/-- The 53 leading places as a number of their own, with zeros behind them
where `n` has fewer. -/
def significand (n : Nat) : Nat :=
  halfEvenShift (n * 2 ^ (52 - n.log2)) (spare n)

theorem two_pow_spare (n : Nat) :
    2 ^ 52 * 2 ^ spare n = 2 ^ n.log2 * 2 ^ (52 - n.log2) := by
  rw [← pow_add, ← pow_add]
  congr 1
  unfold spare
  omega

theorem two_pow_spare_succ (n : Nat) :
    2 ^ 53 * 2 ^ spare n = 2 ^ (n.log2 + 1) * 2 ^ (52 - n.log2) := by
  rw [pow_succ 2 n.log2, mul_right_comm, ← two_pow_spare, mul_right_comm]
  rfl

/-- The rounded number in the unit of its last place is the significand. -/
theorem leading_mul (n : Nat) :
    leading n * 2 ^ (52 - n.log2) = significand n * 2 ^ spare n := by
  by_cases hlog : n.log2 ≤ 52
  · have hspare : spare n = 0 := Nat.sub_eq_zero_of_le hlog
    have hself := halfEvenShift_mul (n * 2 ^ (52 - n.log2)) 0
    have hn := halfEvenShift_mul n 0
    rw [pow_zero, mul_one] at hself hn
    rw [leading, significand, hspare, hself, hn, pow_zero, mul_one, mul_one]
  · have hnone : 52 - n.log2 = 0 := by omega
    rw [leading, significand, hnone, pow_zero, mul_one, mul_one]

/-- The leading place is set, or there is a carry out of it. -/
theorem significand_bounds {n : Nat} (hn : n ≠ 0) :
    2 ^ 52 ≤ significand n ∧ significand n ≤ 2 ^ 53 := by
  have hmin := Nat.mul_le_mul_right (2 ^ (52 - n.log2)) (Nat.log2_self_le hn)
  have hmax := Nat.mul_le_mul_right (2 ^ (52 - n.log2))
    (Nat.lt_log2_self (n := n)).le
  -- both bounds are multiples of the unit, so rounding does not pass them
  rw [← two_pow_spare] at hmin
  rw [← two_pow_spare_succ] at hmax
  have hlow := halfEvenShift_mono (spare n) hmin
  have hhigh := halfEvenShift_mono (spare n) hmax
  rw [halfEvenShift_mul] at hlow hhigh
  exact ⟨hlow, hhigh⟩

/-- The rounded number has the leading place of the number, or is the power of
two above it. -/
theorem leading_bounds {n : Nat} (hn : n ≠ 0) :
    2 ^ n.log2 ≤ leading n ∧ leading n ≤ 2 ^ (n.log2 + 1) := by
  obtain ⟨hmin, hmax⟩ := significand_bounds hn
  have hunit := Nat.two_pow_pos (52 - n.log2)
  constructor
  · refine Nat.le_of_mul_le_mul_right ?_ hunit
    rw [leading_mul, ← two_pow_spare]
    exact Nat.mul_le_mul_right _ hmin
  · refine Nat.le_of_mul_le_mul_right ?_ hunit
    rw [leading_mul, ← two_pow_spare_succ]
    exact Nat.mul_le_mul_right _ hmax

/-- Rounding keeps the order also where it cuts off more places of the greater
number. -/
theorem leading_mono {m n : Nat} (h : m ≤ n) : leading m ≤ leading n := by
  by_cases hm : m = 0
  · rw [hm]
    exact Nat.zero_le _
  · have hn : n ≠ 0 := by omega
    have hlog : m.log2 ≤ n.log2 :=
      (Nat.le_log2 hn).mpr ((Nat.log2_self_le hm).trans h)
    rcases Nat.lt_or_eq_of_le hlog with hlt | heq
    · calc leading m ≤ 2 ^ (m.log2 + 1) := (leading_bounds hm).2
        _ ≤ 2 ^ n.log2 := Nat.pow_le_pow_right (by decide) hlt
        _ ≤ leading n := (leading_bounds hn).1
    · unfold leading spare
      rw [heq]
      exact Nat.mul_le_mul_right _ (halfEvenShift_mono _ h)

/-- At most so many significant bits, with zeros behind them. -/
def Significant (bits : Nat) (n : Int) : Prop :=
  ∃ (m : Int) (k : Nat), n = m * 2 ^ k ∧ m.natAbs < 2 ^ bits

namespace Significant

variable {bits : Nat} {n : Int}

/-- The size of a number has its significant bits. -/
theorem natAbs (h : Significant bits n) :
    ∃ m k, n.natAbs = m * 2 ^ k ∧ m < 2 ^ bits := by
  obtain ⟨m, k, rfl, hm⟩ := h
  refine ⟨m.natAbs, k, ?_, hm⟩
  rw [Int.natAbs_mul, Int.natAbs_pow]
  rfl

theorem neg (h : Significant bits n) : Significant bits (-n) := by
  obtain ⟨m, k, rfl, hm⟩ := h
  exact ⟨-m, k, by ring, by rwa [Int.natAbs_neg]⟩

/-- A carry out of the leading place leaves a power of two. -/
theorem of_le {q : Nat} (k : Nat) (hbits : bits ≠ 0) (h : q ≤ 2 ^ bits) :
    Significant bits (q * 2 ^ k : Nat) := by
  rcases Nat.lt_or_eq_of_le h with hlt | rfl
  · exact ⟨q, k, by push_cast; rfl, hlt⟩
  · exact ⟨1, bits + k, by push_cast; ring, Nat.one_lt_two_pow hbits⟩

end Significant

/-- A number that reaches the leading place of `n` has nothing in the spare
places of `n`, if it has no more than 53 places. -/
theorem dvd_of_log2_le {m k n : Nat} (hm : m < 2 ^ 53)
    (h : 2 ^ n.log2 ≤ m * 2 ^ k) : 2 ^ spare n ∣ m * 2 ^ k := by
  by_cases hk : spare n ≤ k
  · exact Dvd.dvd.mul_left (pow_dvd_pow 2 hk) m
  · have hlt : m * 2 ^ k < 2 ^ n.log2 := by
      calc m * 2 ^ k < 2 ^ 53 * 2 ^ k :=
            Nat.mul_lt_mul_of_pos_right hm (Nat.two_pow_pos k)
        _ = 2 ^ (53 + k) := (pow_add 2 53 k).symm
        _ ≤ 2 ^ n.log2 := by
            refine Nat.pow_le_pow_right (by decide) ?_
            unfold spare at hk
            omega
    omega

/-- Rounding leaves alone what has only zeros in the places that are cut off.
-/
theorem leading_of_dvd {n : Nat} (h : 2 ^ spare n ∣ n) : leading n = n := by
  obtain ⟨m, hm⟩ := h
  rw [mul_comm] at hm
  have hshift := halfEvenShift_mul m (spare n)
  rw [← hm] at hshift
  rw [leading, hshift, ← hm]

/-- A number of 53 significant bits that is as near has nothing in the spare
places of `n`: below the leading place of `n`, that place itself is nearer. -/
theorem dvd_of_natAbs_le {m k n : Nat} (hm : m < 2 ^ 53)
    (h : ((n : Int) - (m * 2 ^ k : Nat)).natAbs
      ≤ ((n : Int) - leading n).natAbs) :
    2 ^ spare n ∣ m * 2 ^ k := by
  by_cases hn : n = 0
  · rw [hn]
    exact one_dvd _
  · refine dvd_of_log2_le hm ?_
    have hplace : 2 ^ spare n ∣ 2 ^ n.log2 :=
      pow_dvd_pow 2 (Nat.sub_le _ _)
    obtain ⟨j, hj⟩ := hplace
    have hnear := halfEvenShift_nearest n (spare n) j
    rw [mul_comm j, ← hj] at hnear
    have hself := Nat.log2_self_le hn
    unfold leading at h
    omega

/-- No number of 53 significant bits is nearer. -/
theorem leading_nearest {m k : Nat} (n : Nat) (hm : m < 2 ^ 53) :
    ((n : Int) - leading n).natAbs ≤ ((n : Int) - (m * 2 ^ k : Nat)).natAbs := by
  by_contra hnearer
  obtain ⟨j, hj⟩ := dvd_of_natAbs_le hm (Nat.le_of_not_le hnearer)
  refine hnearer ?_
  rw [hj, mul_comm]
  exact halfEvenShift_nearest n (spare n) j

theorem halfEvenShift_spare_le {n : Nat} (h : 2 ^ 53 ≤ n) :
    halfEvenShift n (spare n) ≤ 2 ^ 53 := by
  have hn : n ≠ 0 := (Nat.two_pow_pos 53).trans_le h |>.ne'
  have hlog : n.log2 + 1 = 53 + spare n := by
    have := (Nat.le_log2 hn).mpr h
    unfold spare
    omega
  have hmax := (leading_bounds hn).2
  rw [hlog, pow_add, leading] at hmax
  exact Nat.le_of_mul_le_mul_right hmax (Nat.two_pow_pos _)

/-- What is rounded has no more than 53 significant bits, a carry included. -/
theorem significant_leading (n : Nat) : Significant 53 (leading n) := by
  rcases Nat.lt_or_ge n (2 ^ 53) with hsmall | hlarge
  · rw [leading_eq_self hsmall]
    exact ⟨n, 0, (mul_one _).symm, hsmall⟩
  · exact .of_le _ (by decide) (halfEvenShift_spare_le hlarge)

/-- Where another number of 53 significant bits is as near, the last of the 53
is zero. -/
theorem leading_even {m k n : Nat} (hm : m < 2 ^ 53)
    (hne : m * 2 ^ k ≠ leading n)
    (htie : ((n : Int) - (m * 2 ^ k : Nat)).natAbs
      = ((n : Int) - leading n).natAbs) :
    Significant 52 (leading n) := by
  rcases Nat.lt_or_ge n (2 ^ 53) with hsmall | hlarge
  · rw [leading_eq_self hsmall] at hne htie
    omega
  · obtain ⟨j, hj⟩ := dvd_of_natAbs_le hm htie.le
    rw [hj, mul_comm] at hne htie
    have heven := halfEvenShift_even hne htie
    have hle := halfEvenShift_spare_le hlarge
    obtain ⟨half, hhalf⟩ := Nat.dvd_of_mod_eq_zero heven
    rw [leading, hhalf, mul_comm 2, mul_assoc, ← pow_succ']
    exact .of_le _ (by decide) (by omega)

namespace Double

/-- The whole number that the double of a whole number is. -/
def nearest (n : Int) : Int :=
  if n < 0 then -leading n.natAbs else leading n.natAbs

/-- Below zero the sizes are in the other order, and rounding keeps that
too. -/
theorem nearest_mono {a b : Int} (h : a ≤ b) : nearest a ≤ nearest b := by
  unfold nearest
  by_cases hb : b < 0
  · have := leading_mono (show b.natAbs ≤ a.natAbs by omega)
    rw [if_pos hb, if_pos (by omega)]
    omega
  · by_cases ha : a < 0
    · rw [if_pos ha, if_neg hb]
      omega
    · have := leading_mono (show a.natAbs ≤ b.natAbs by omega)
      rw [if_neg ha, if_neg hb]
      omega

/-- Rounding leaves alone what has no more than 53 significant bits. -/
theorem nearest_of_significant {n : Int} (h : Significant 53 n) :
    nearest n = n := by
  have hself : leading n.natAbs = n.natAbs := by
    by_cases hn : n.natAbs = 0
    · rw [hn]
      rfl
    · obtain ⟨m, k, hmk, hm⟩ := h.natAbs
      refine leading_of_dvd ?_
      have hreach := Nat.log2_self_le hn
      have hdvd := dvd_of_log2_le (k := k) hm (hmk ▸ hreach)
      rwa [← hmk] at hdvd
  unfold nearest
  rw [hself]
  split <;> omega

theorem significant_nearest {bits : Nat} {n : Int}
    (h : Significant bits (leading n.natAbs)) :
    Significant bits (nearest n) := by
  unfold nearest
  split
  · exact h.neg
  · exact h

/-- These are all the numbers that rounding leaves alone. -/
theorem nearest_eq_self_iff {n : Int} : nearest n = n ↔ Significant 53 n := by
  constructor
  · intro h
    rw [← h]
    exact significant_nearest (significant_leading _)
  · exact nearest_of_significant

/-- The number has at most 53 significant bits, and none that has is nearer to
`n`. Of two that are as near it is the one whose last bit is zero. -/
structure IsNearest (n r : Int) : Prop where
  significant : Significant 53 r
  natAbs_le : ∀ s, Significant 53 s → (n - r).natAbs ≤ (n - s).natAbs
  even : ∀ s, Significant 53 s → s ≠ r → (n - s).natAbs = (n - r).natAbs →
    Significant 52 r

/-- The rounded number is a nearest one, and the even one of two. -/
theorem isNearest_nearest (n : Int) : IsNearest n (nearest n) := by
  have hzero := leading_nearest (k := 0) n.natAbs (show 0 < 2 ^ 53 by decide)
  refine ⟨significant_nearest (significant_leading _), ?_, ?_⟩
  · intro s hs
    obtain ⟨m, k, hmk, hm⟩ := hs.natAbs
    have hleading := leading_nearest (k := k) n.natAbs hm
    rw [← hmk] at hleading
    -- the sign is put back last; the comparison is of magnitudes
    unfold nearest
    split <;> omega
  · intro s hs hne htie
    obtain ⟨m, k, hmk, hm⟩ := hs.natAbs
    refine significant_nearest (leading_even (k := k) hm ?_ ?_)
    · rw [← hmk]
      unfold nearest at hne htie
      split at htie <;> omega
    · rw [← hmk]
      unfold nearest at htie
      split at htie <;> omega

end Double

end FilterCriteria
