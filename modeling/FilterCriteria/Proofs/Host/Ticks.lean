/-
Points in time as numbers of ticks. Counting the ticks since the start of the
year 1 is a bijection between the points in time on whole ticks and the
numbers up to the ticks of the last one, it keeps the order, and the two
factories that count from a day of their own land on the tick they are asked
for, or fail.

The factories add a span to their first day and check the range
(`dateOrFail_add?`), so what they make is told by the number of ticks alone.
`FromBinary` keeps the kind of a point in time in the two highest bits of the
number and drops them when it reads it. The ticks of a point in time have
neither of these bits set, and so come back as they are
(`callDateType_fromBinary_self`); a number with one of them set is read as
another number, which `callDateType_fromBinary_ticks_flagged` shows. None of
this depends on the zone, as ticks are those of the clock face.
-/
import FilterCriteria.Proofs.Host.DateArithmetic

namespace FilterCriteria.Host

open DateTime (ordinary_minValue ordinary_maxValue)

-- =============================================================== ticks

/-- The ticks since the start of the year 1, as they are read. -/
def ticks (t : DateTime) : Int64 :=
  ticksOrZero (DateTime.minValue.spanBetween? t)

theorem readDate_ticks (t : DateTime) :
    readDate t "Ticks" = .ok (.long (ticks t)) := by
  rfl

variable {t a b r : DateTime}

/-- The ticks are the nanoseconds by the hundred, as an exact integer: they
fit. -/
theorem toInt_ticks (ht : t.Ordinary) : (ticks t).toInt = t.nanos / 100 := by
  obtain ⟨s, hs, hticks⟩ := DateTime.exists_spanBetween? ordinary_minValue ht
  have hread : ticks t = s.ticks := by
    unfold ticks
    rw [hs]
    rfl
  rw [hread, hticks, DateTime.nanos_minValue, Int.sub_zero,
    Int.tdiv_eq_ediv_of_nonneg ht.nanos_bounds.1]

theorem toInt_ticks_maxValue :
    (ticks .maxValue).toInt = 3155378975999999999 := by
  rw [toInt_ticks ordinary_maxValue, DateTime.nanos_maxValue]
  rfl

/-- On a whole tick no nanoseconds are lost. -/
theorem nanos_eq_ticks (ht : t.Ordinary) (haligned : t.TickAligned) :
    t.nanos = (ticks t).toInt * 100 := by
  rw [DateTime.tickAligned_iff] at haligned
  have hticks := toInt_ticks ht
  omega

/-- Ticks are in the order of the points in time. -/
theorem ticks_lt_iff (ha : a.Ordinary) (hta : a.TickAligned)
    (hb : b.Ordinary) (htb : b.TickAligned) :
    ticks a < ticks b ↔ a.noLater b = true ∧ a ≠ b := by
  have hna := nanos_eq_ticks ha hta
  have hnb := nanos_eq_ticks hb htb
  rw [Int64.lt_iff_toInt_lt, DateTime.noLater_iff ha.nano_lt hb.nano_lt]
  constructor
  · intro hlt
    refine ⟨by omega, ?_⟩
    intro heq
    rw [heq] at hlt
    omega
  · intro h
    obtain ⟨hle, hne⟩ := h
    have hnanos : a.nanos ≠ b.nanos := by
      intro heq
      exact hne (DateTime.eq_of_nanos_eq ha.nano_lt hb.nano_lt heq)
    omega

-- =========================================================== factories

/-- Counting ticks from a point on a whole tick leads to the tick that is the
sum, or fails because there is none. -/
theorem dateOrFail_add? (ht : t.Ordinary) (haligned : t.TickAligned)
    (x : Int64) :
    let sum := (ticks t).toInt + x.toInt
    (0 ≤ sum ∧ sum ≤ (ticks .maxValue).toInt →
      ∃ r, dateOrFail (t.add? ⟨x⟩) = .ok (.dateTime r)
        ∧ (ticks r).toInt = sum)
    ∧ (¬ (0 ≤ sum ∧ sum ≤ (ticks .maxValue).toInt) →
      dateOrFail (t.add? ⟨x⟩) = .error (.failed .dateOutOfRange)) := by
  have hnanos := nanos_eq_ticks ht haligned
  dsimp only
  rw [toInt_ticks_maxValue]
  constructor
  · intro h
    obtain ⟨r, hadd, hr, hsum⟩ := DateTime.exists_add? ht.nano_lt (s := ⟨x⟩)
      (by dsimp only; omega) (by dsimp only; omega)
    refine ⟨r, dateOrFail_eq_ok.mpr hadd, ?_⟩
    dsimp only at hsum
    rw [toInt_ticks hr]
    omega
  · intro h
    rw [DateTime.add?_eq_none ht.nano_lt (by dsimp only; omega)]
    rfl

/-- To leave out the two highest bits is to take the remainder. -/
theorem toInt_and_mask (n : Int64) :
    (n &&& 0x3FFFFFFFFFFFFFFF).toInt = n.toInt % 0x4000000000000000 := by
  have hmask : (n &&& 0x3FFFFFFFFFFFFFFF).toBitVec.toNat
      = n.toBitVec.toNat % 2 ^ 62 := by
    rw [Int64.toBitVec_and, BitVec.toNat_and]
    exact Nat.and_two_pow_sub_one_eq_mod _ 62
  have hlt := n.toBitVec.isLt
  have hn : n.toInt = n.toBitVec.toInt := rfl
  have hm : (n &&& 0x3FFFFFFFFFFFFFFF).toInt
      = (n &&& 0x3FFFFFFFFFFFFFFF).toBitVec.toInt := rfl
  rw [hn, hm, BitVec.toInt_eq_toNat_cond, BitVec.toInt_eq_toNat_cond, hmask]
  split
  · split
    · omega
    · omega
  · omega

/-- The two highest bits are no part of the number of ticks. -/
theorem callDateType_fromBinary (zone : Zone) (n : Int64) :
    callDateType zone "FromBinary" [.long n]
      = dateOrFail (DateTime.minValue.add? ⟨n &&& 0x3FFFFFFFFFFFFFFF⟩) := by
  have hspan : TimeSpan.ofTicks? (n.toInt % 0x4000000000000000)
      = some ⟨n &&& 0x3FFFFFFFFFFFFFFF⟩ :=
    TimeSpan.ofTicks?_eq_some_iff.mpr (toInt_and_mask n)
  show (orFail .dateOutOfRange
    (TimeSpan.ofTicks? (n.toInt % 0x4000000000000000)) >>= fun s =>
      dateOrFail (DateTime.minValue.add? s)) = _
  rw [hspan]
  rfl

/-- A file time below zero is refused before it is counted. -/
theorem callDateType_fromFileTimeUtc (zone : Zone) (n : Int64) :
    callDateType zone "FromFileTimeUtc" [.long n]
      = if n.toInt < 0 then .error (.failed .invalidFileTime)
        else dateOrFail (fileTimeEpoch.add? ⟨n⟩) := by
  have hspan : TimeSpan.ofTicks? n.toInt = some ⟨n⟩ :=
    TimeSpan.ofTicks?_toInt ⟨n⟩
  show (fileTime n.toInt).map Value.dateTime = _
  unfold fileTime
  rw [hspan]
  split
  · rfl
  · rfl

/-- The ticks of a point in time have neither of the two highest bits set. -/
theorem callDateType_fromBinary_self (zone : Zone) (ht : t.Ordinary)
    (haligned : t.TickAligned) :
    callDateType zone "FromBinary" [.long (ticks t)] = .ok (.dateTime t) := by
  have hnanos := nanos_eq_ticks ht haligned
  have hmask := toInt_and_mask (ticks t)
  have hbounds := ht.nanos_bounds
  rw [callDateType_fromBinary, dateOrFail_eq_ok,
    DateTime.add?_eq_some_iff ordinary_minValue.nano_lt]
  refine ⟨ht, ?_⟩
  rw [DateTime.nanos_minValue]
  dsimp only
  omega

/-- A negative file time has a failure of its own. -/
theorem callDateType_fromFileTimeUtc_cases (zone : Zone) (n : Int64) :
    let last := (ticks .maxValue).toInt - (ticks fileTimeEpoch).toInt
    (0 ≤ n.toInt ∧ n.toInt ≤ last →
      ∃ r, callDateType zone "FromFileTimeUtc" [.long n] = .ok (.dateTime r)
        ∧ (ticks r).toInt = n.toInt + (ticks fileTimeEpoch).toInt)
    ∧ (¬ (0 ≤ n.toInt ∧ n.toInt ≤ last) →
      callDateType zone "FromFileTimeUtc" [.long n] = .error (.failed
        (if n.toInt < 0 then .invalidFileTime else .dateOutOfRange))) := by
  have hepoch : fileTimeEpoch.Ordinary := ⟨by decide, by decide⟩
  have hticks := toInt_ticks hepoch
  have hbounds := hepoch.nanos_bounds
  obtain ⟨hin, hout⟩ := dateOrFail_add? hepoch rfl n
  dsimp only
  rw [callDateType_fromFileTimeUtc]
  by_cases hneg : n.toInt < 0
  · rw [if_pos hneg, if_pos hneg]
    constructor
    · intro h
      omega
    · intro _
      rfl
  · rw [if_neg hneg, if_neg hneg]
    constructor
    · intro h
      obtain ⟨r, hr, hsum⟩ := hin (by omega)
      exact ⟨r, hr, by omega⟩
    · intro h
      exact hout (by omega)

-- ======================================================= the bijection

/-- `Ticks` and `FromBinary` are inverse to each other. The ticks of a point
in time on a whole tick lead back to it, and they keep the order. A
number, without its two highest bits, is the ticks of a point in time exactly
up to those of the last one; a file time is so from 0 on, and is counted from
the start of 1601. -/
theorem callDateType_fromBinary_ticks (zone : Zone) :
    (∀ t, readDate t "Ticks" = .ok (.long (ticks t))
      ∧ (t.Ordinary → t.TickAligned →
        callDateType zone "FromBinary" [.long (ticks t)] = .ok (.dateTime t)))
    ∧ (∀ a b : DateTime, a.Ordinary → a.TickAligned → b.Ordinary →
      b.TickAligned → (ticks a < ticks b ↔ a.noLater b = true ∧ a ≠ b))
    ∧ (∀ n : Int64, let masked := n &&& 0x3FFFFFFFFFFFFFFF
      (masked ≤ ticks .maxValue →
        ∃ r, callDateType zone "FromBinary" [.long n] = .ok (.dateTime r)
          ∧ ticks r = masked)
      ∧ (¬ masked ≤ ticks .maxValue →
        callDateType zone "FromBinary" [.long n]
          = .error (.failed .dateOutOfRange)))
    ∧ ∀ n : Int64,
      let last := (ticks .maxValue).toInt - (ticks fileTimeEpoch).toInt
      (0 ≤ n.toInt ∧ n.toInt ≤ last →
        ∃ r, callDateType zone "FromFileTimeUtc" [.long n] = .ok (.dateTime r)
          ∧ (ticks r).toInt = n.toInt + (ticks fileTimeEpoch).toInt)
      ∧ (¬ (0 ≤ n.toInt ∧ n.toInt ≤ last) →
        callDateType zone "FromFileTimeUtc" [.long n] = .error (.failed
          (if n.toInt < 0 then .invalidFileTime else .dateOutOfRange))) := by
  have hzero : (ticks .minValue).toInt = 0 := toInt_ticks ordinary_minValue
  refine ⟨?_, ?_, ?_, callDateType_fromFileTimeUtc_cases zone⟩
  · intro t
    exact ⟨readDate_ticks t, callDateType_fromBinary_self zone⟩
  · intro a b ha hta hb htb
    exact ticks_lt_iff ha hta hb htb
  · intro n
    have hmask := toInt_and_mask n
    obtain ⟨hin, hout⟩ :=
      dateOrFail_add? ordinary_minValue rfl (n &&& 0x3FFFFFFFFFFFFFFF)
    rw [hzero] at hin hout
    dsimp only
    rw [callDateType_fromBinary, Int64.le_iff_toInt_le]
    constructor
    · intro h
      obtain ⟨r, hr, hticks⟩ := hin (by omega)
      exact ⟨r, hr, Int64.toInt_inj.mp (by omega)⟩
    · intro h
      exact hout (by omega)

/-- The highest bit does not count, while all of the others together are too
much; and the last file time is the last point in time. -/
theorem callDateType_fromBinary_ticks_flagged :
    callDateType .utc "FromBinary" [.long (ticks .maxValue)]
        = .ok (.dateTime .maxValue)
      ∧ ticks .minValue < ticks .maxValue
      ∧ (∃ r, callDateType .utc "FromBinary" [.long (-9223372036854775807)]
          = .ok (.dateTime r) ∧ ticks r = 1)
      ∧ callDateType .utc "FromBinary" [.long 0x7FFFFFFFFFFFFFFF]
        = .error (.failed .dateOutOfRange)
      ∧ (∃ r, callDateType .utc "FromFileTimeUtc" [.long 2650467743999999999]
          = .ok (.dateTime r) ∧ (ticks r).toInt = 3155378975999999999)
      ∧ callDateType .utc "FromFileTimeUtc" [.long (-1)]
        = .error (.failed .invalidFileTime) := by
  obtain ⟨hself, horder, hbinary, hfile⟩ :=
    callDateType_fromBinary_ticks .utc
  refine ⟨(hself _).2 ordinary_maxValue rfl, ?_, ?_, ?_, ?_, ?_⟩
  · exact (horder _ _ ordinary_minValue rfl ordinary_maxValue rfl).mpr
      ⟨by decide, by decide⟩
  · exact (hbinary (-9223372036854775807)).1 (by decide +kernel)
  · exact (hbinary 0x7FFFFFFFFFFFFFFF).2 (by decide +kernel)
  · exact (hfile 2650467743999999999).1 (by decide +kernel)
  · exact (hfile (-1)).2 (by decide +kernel)

end FilterCriteria.Host
