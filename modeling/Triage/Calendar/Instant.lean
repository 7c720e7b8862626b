/-
Points in time.

An instant counts whole seconds since the start of 1970 in universal time, and the nanoseconds
within its second. A leap second prolongs the last second of a minute: its nanoseconds run on
from one thousand million. Instants are ordered by second, then by nanosecond.
-/
import Triage.Calendar.Date
namespace Triage.Calendar

/-- A point in time. -/
structure Instant where
  seconds : Int
  nanos : Nat
  deriving Repr, DecidableEq, Inhabited

/-- Nanoseconds in a second. -/
def nanosPerSecond : Nat := 1000000000

/-- Seconds in a day. -/
def secondsPerDay : Int := 86400

namespace Instant

/-- The first second of the calendar. -/
def firstSecond : Int := Date.toDays ⟨firstYear, 1, 1⟩ * secondsPerDay

/-- The last second of the calendar. -/
def lastSecond : Int := Date.toDays ⟨lastYear, 12, 31⟩ * secondsPerDay + 86399

/-- Whether the calendar has this second, and its nanoseconds are those of an ordinary second or
of a leap second at the end of a minute. -/
def isValid (t : Instant) : Bool :=
  firstSecond ≤ t.seconds && t.seconds ≤ lastSecond &&
    (t.nanos < nanosPerSecond || (t.nanos < 2 * nanosPerSecond && t.seconds % 60 == 59))

/-- The instant if the calendar has it. -/
def checked (t : Instant) : Option Instant := if t.isValid then some t else none

/-- So many milliseconds after the start of 1970. -/
def ofMillis (ms : Int) : Instant :=
  ⟨Int.fdiv ms 1000, (Int.fmod ms 1000).toNat * 1000000⟩

/-- Milliseconds since the start of 1970, cut to whole ones. -/
def toMillis (t : Instant) : Int := t.seconds * 1000 + t.nanos / 1000000

/-- Earlier instants come first. -/
def compare (a b : Instant) : Ordering :=
  (Ord.compare a.seconds b.seconds).then (Ord.compare a.nanos b.nanos)

/-- Whether the first instant is strictly before the second. -/
def before (a b : Instant) : Bool := a.compare b == .lt

/-- The second of the day. -/
def secondOfDay (t : Instant) : Int := Int.fmod t.seconds secondsPerDay

/-- Nanoseconds from one instant to another. A leap second that one of the two lies in is counted
when the other is at a later time of day. -/
def nanosBetween (start stop : Instant) : Int :=
  let inserted : Int :=
    if start.secondOfDay < stop.secondOfDay then
      if nanosPerSecond ≤ start.nanos then 1 else 0
    else if stop.secondOfDay < start.secondOfDay then
      if nanosPerSecond ≤ stop.nanos then -1 else 0
    else 0
  (stop.seconds - start.seconds + inserted) * nanosPerSecond + (stop.nanos - start.nanos)

/-- Whole seconds from one instant to another, cut towards zero. -/
def secondsBetween (start stop : Instant) : Int :=
  Int.tdiv (start.nanosBetween stop) nanosPerSecond

/-- The instant so many seconds earlier, if the calendar has it. -/
def minusSeconds? (t : Instant) (seconds : Int) : Option Instant :=
  checked ⟨t.seconds - seconds, t.nanos⟩

end Instant
end Triage.Calendar
