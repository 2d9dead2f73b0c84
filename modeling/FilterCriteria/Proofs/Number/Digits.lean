/-
Decimal digits and the numbers they stand for. Every reader of this library
takes a run of characters off the front of a text; what it is given is the
digits of a number with something behind them that the run stops at. So the
facts are of two kinds: writing a number in digits loses nothing, and a run
that is followed by a stop is found as a whole. At the end stand the checked
steps to 64 bits and the division toward zero, in terms of exact integers.
-/
import Mathlib.Algebra.Group.Int.Defs
import Mathlib.Algebra.Group.Nat.Defs
import FilterCriteria.Number.Digits

namespace FilterCriteria

-- ================================================================ runs

/-- A text at which a run of `p` comes to its end. -/
def Stops (p : Char → Bool) (cs : List Char) : Prop :=
  ∀ c ∈ cs.head?, p c = false

variable {p : Char → Bool}

theorem stops_nil : Stops p [] := by
  simp [Stops]

theorem stops_cons {c : Char} (cs : List Char) (h : p c = false) :
    Stops p (c :: cs) := by
  simpa [Stops] using h

theorem takeWhile_of_stops {cs : List Char} (h : Stops p cs) :
    cs.takeWhile p = [] := by
  cases cs with
  | nil => rfl
  | cons c cs => rw [List.takeWhile_cons_of_neg]; simp [h c rfl]

theorem dropWhile_of_stops {cs : List Char} (h : Stops p cs) :
    cs.dropWhile p = cs := by
  cases cs with
  | nil => rfl
  | cons c cs => rw [List.dropWhile_cons_of_neg]; simp [h c rfl]

/-- A run ends where it is followed by a stop, so taking it off gives all of
it. -/
theorem takeWhile_append_stop {run rest : List Char}
    (hrun : ∀ c ∈ run, p c = true) (hrest : Stops p rest) :
    (run ++ rest).takeWhile p = run := by
  rw [List.takeWhile_append_of_pos hrun, takeWhile_of_stops hrest,
    List.append_nil]

/-- What is left behind a run is what follows it. -/
theorem dropWhile_append_stop {run rest : List Char}
    (hrun : ∀ c ∈ run, p c = true) (hrest : Stops p rest) :
    (run ++ rest).dropWhile p = rest := by
  rw [List.dropWhile_append_of_pos hrun, dropWhile_of_stops hrest]

-- ============================================================== digits

/-- The digits of a number are digits. -/
theorem isDigit_of_mem_decimalDigits {n : Nat} {c : Char}
    (h : c ∈ decimalDigits n) : isDigit c = true := by
  have hc := Nat.isDigit_of_mem_toDigits (by omega) (by omega) h
  simp only [Char.isDigit, ge_iff_le, Bool.and_eq_true, decide_eq_true_eq,
    UInt32.le_iff_toNat_le] at hc
  simp only [isDigit, Bool.and_eq_true, decide_eq_true_eq]
  exact hc

theorem decimalDigits_ne_nil (n : Nat) : decimalDigits n ≠ [] :=
  Nat.toDigits_ne_nil

/-- Only the number 0 is written with a zero in front. -/
theorem decimalDigits_no_leading_zero {n : Nat} {ds : List Char}
    (h : decimalDigits n = '0' :: ds) : ds = [] := by
  induction n using Nat.strongRecOn generalizing ds with
  | ind n ih =>
      unfold decimalDigits at h
      by_cases hn : n < 10
      · rw [Nat.toDigits_of_lt_base hn] at h
        exact (List.cons.inj h).2.symm
      · -- the digits of `n / 10` begin with the same zero, so that they are
        -- the zero alone and `n / 10` is 0
        rw [Nat.toDigits_of_base_le (by omega) (by omega)] at h
        obtain ⟨c, cs, hcs⟩ :=
          List.exists_cons_of_ne_nil (decimalDigits_ne_nil (n / 10))
        have hc : c = '0' := by
          rw [decimalDigits] at hcs
          rw [hcs] at h
          exact (List.cons.inj h).1
        subst hc
        have hnil : cs = [] := ih (n / 10) (by omega) hcs
        have hzero : n / 10 = 0 := by
          have := Nat.ofDigitChars_ten_toDigits (n := n / 10)
          rw [decimalDigits, hnil] at hcs
          rw [hcs] at this
          exact this.symm
        omega

/-- Writing a number in digits loses nothing. -/
theorem ofDigits_decimalDigits (n : Nat) : ofDigits (decimalDigits n) = n :=
  Nat.ofDigitChars_ten_toDigits

/-- Zeros in front do not count. -/
theorem ofDigits_zeros_append (k : Nat) (ds : List Char) :
    ofDigits (List.replicate k '0' ++ ds) = ofDigits ds := by
  induction k with
  | zero => rfl
  | succ k ih => exact ih

-- ====================================================== padded numbers

/-- A number is filled up with zeros in front. -/
theorem toList_padded (width n : Nat) :
    (padded width n).toList =
      List.replicate (width - (decimalDigits n).length) '0'
        ++ decimalDigits n := by
  simp [padded]

theorem isDigit_of_mem_padded {width n : Nat} {c : Char}
    (h : c ∈ (padded width n).toList) : isDigit c = true := by
  rw [toList_padded, List.mem_append] at h
  rcases h with h | h
  · rw [List.eq_of_mem_replicate h]
    rfl
  · exact isDigit_of_mem_decimalDigits h

/-- A padded number is read as the number. -/
theorem ofDigits_padded (width n : Nat) :
    ofDigits (padded width n).toList = n := by
  rw [toList_padded, ofDigits_zeros_append, ofDigits_decimalDigits]

theorem padded_ne_nil (width n : Nat) : (padded width n).toList ≠ [] := by
  rw [toList_padded]
  simp [decimalDigits_ne_nil]

/-- A padded number begins with a digit. -/
theorem padded_eq_cons (width n : Nat) :
    ∃ c cs, (padded width n).toList = c :: cs ∧ isDigit c = true := by
  obtain ⟨c, cs, hcs⟩ := List.exists_cons_of_ne_nil (padded_ne_nil width n)
  have hc : c ∈ (padded width n).toList := by rw [hcs]; exact .head _
  exact ⟨c, cs, hcs, isDigit_of_mem_padded hc⟩

theorem isEmpty_padded (width n : Nat) :
    (padded width n).toList.isEmpty = false :=
  List.isEmpty_eq_false_iff.mpr (padded_ne_nil width n)

/-- A number that fits its width takes exactly that many characters. -/
theorem length_padded {width n : Nat} (hw : 0 < width)
    (h : n < 10 ^ width) : (padded width n).toList.length = width := by
  have hlen : (decimalDigits n).length ≤ width :=
    (Nat.length_toDigits_le_iff (by omega) hw).mpr h
  rw [toList_padded, List.length_append, List.length_replicate]
  omega

-- ======================================================= whole numbers

/-- A number fits 64 bits exactly as itself. -/
theorem int64?_eq_some_iff {n : Int} {k : Int64} :
    int64? n = some k ↔ k.toInt = n := by
  have hmin := k.le_toInt
  have hmax := k.toInt_lt
  unfold int64?
  constructor
  · intro h
    split at h
    · next hfits =>
      cases h
      exact Int64.toInt_ofInt_of_le hfits.1 hfits.2
    · cases h
  · intro h
    rw [← h, if_pos ⟨hmin, hmax⟩, Int64.ofInt_toInt]

/-- Every integer in the range of 64 bits is one of them. -/
theorem exists_toInt_eq {n : Int} (hmin : -2 ^ 63 ≤ n) (hmax : n < 2 ^ 63) :
    ∃ k : Int64, k.toInt = n :=
  ⟨Int64.ofInt n, Int64.toInt_ofInt_of_le hmin hmax⟩

/-- Division toward zero goes by the size of the number. -/
theorem tdiv_cases (n d : Int) :
    (0 ≤ n ∧ n.tdiv d = n / d ∧ n.tmod d = n % d)
      ∨ (n ≤ 0 ∧ n.tdiv d = -(-n / d) ∧ n.tmod d = -(-n % d)) := by
  rcases Int.le_total 0 n with hn | hn
  · left
    exact ⟨hn, Int.tdiv_eq_ediv_of_nonneg hn, Int.tmod_eq_emod_of_nonneg hn⟩
  · right
    have hneg : 0 ≤ -n := by omega
    refine ⟨hn, ?_, ?_⟩
    · rw [← Int.tdiv_eq_ediv_of_nonneg hneg, Int.neg_tdiv, Int.neg_neg]
    · rw [← Int.tmod_eq_emod_of_nonneg hneg, Int.neg_tmod, Int.neg_neg]

/-- Two divisions toward zero are one. -/
theorem tdiv_tdiv (n : Int) {a : Int} (b : Int) (ha : 0 ≤ a) :
    (n.tdiv a).tdiv b = n.tdiv (a * b) := by
  have hnonneg : ∀ m : Int, 0 ≤ m → (m.tdiv a).tdiv b = m.tdiv (a * b) := by
    intro m hm
    rw [Int.tdiv_eq_ediv_of_nonneg hm,
      Int.tdiv_eq_ediv_of_nonneg (Int.ediv_nonneg hm ha),
      Int.tdiv_eq_ediv_of_nonneg hm, Int.ediv_ediv_of_nonneg ha]
  rcases Int.le_total 0 n with hn | hn
  · exact hnonneg n hn
  · have hneg := hnonneg (-n) (by omega)
    rw [Int.neg_tdiv, Int.neg_tdiv, Int.neg_tdiv] at hneg
    omega

end FilterCriteria
