/-
Zones: how far the clocks of a place are ahead of UTC. The offset of a zone
may change in the course of time, but it is always less than a day.
-/
import FilterCriteria.Time.DateTime

namespace FilterCriteria

/-- The point in time so many seconds later, with a leap second left where it
is in its second. -/
def DateTime.shifted (t : DateTime) (seconds : Int) : DateTime :=
  ⟨t.day + (t.second + seconds) / 86400,
    ((t.second + seconds) % 86400).toNat, t.nano, by omega, t.nano_lt⟩

/-- A zone, by the seconds that its clocks are ahead of UTC at a point in
time of UTC. -/
structure Zone where
  offset : DateTime → Int
  offset_lt : ∀ t, (offset t).natAbs < 86400

namespace Zone

/-- The zone with one offset at all times. -/
def ofOffset (seconds : Int) (h : seconds.natAbs < 86400) : Zone :=
  ⟨fun _ => seconds, fun _ => h⟩

def utc : Zone :=
  ofOffset 0 (Nat.zero_lt_succ _)

/-- What the clocks of the zone show at a point in time of UTC. -/
def localTime (z : Zone) (t : DateTime) : DateTime :=
  t.shifted (z.offset t)

end Zone

end FilterCriteria
