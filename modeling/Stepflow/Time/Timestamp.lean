/-
  Stepflow.Time.Timestamp — points in time, to the nanosecond.

  A timestamp is a number of seconds since the beginning of 1970 in universal time and
  a number of nanoseconds. Within a leap second the nanoseconds go on above 10^9 while
  the seconds stay, so order is that of the pairs. Timestamps lie between the first and
  the last year that the calendar of the program knows.
-/

import Stepflow.Time.Calendar

namespace Stepflow.Time

structure Timestamp where
  seconds : Int
  nanos : Nat := 0
  deriving DecidableEq, Repr

namespace Timestamp

def firstYear : Int := -262143

def lastYear : Int := 262142

def secondsPerDay : Int := 86400

def startOf (d : Date) : Int := d.toDays * secondsPerDay

def first : Timestamp := ⟨startOf ⟨firstYear, 1, 1⟩, 0⟩

def inRange (t : Timestamp) : Bool :=
  startOf ⟨firstYear, 1, 1⟩ ≤ t.seconds && t.seconds < startOf ⟨lastYear + 1, 1, 1⟩

def before (a b : Timestamp) : Bool :=
  a.seconds < b.seconds || (a.seconds == b.seconds && a.nanos < b.nanos)

def date (t : Timestamp) : Date := Date.ofDays (t.seconds / secondsPerDay)

def secondOfDay (t : Timestamp) : Nat := (t.seconds % secondsPerDay).toNat

/-- Whole milliseconds from an earlier timestamp on; none from a later one. -/
def millisSince (t start : Timestamp) : Nat :=
  (((t.seconds - start.seconds) * 1000000000 + t.nanos - start.nanos) / 1000000).toNat

def wholeSecond (t : Timestamp) : Timestamp :=
  { t with nanos := t.nanos / 1000000000 * 1000000000 }

def startOfDay (t : Timestamp) : Timestamp := ⟨startOf t.date, 0⟩

/-- The timestamp out of a leap second: the next second when `later`, else the one
    before it. -/
def settled (t : Timestamp) (later : Bool) : Timestamp :=
  if t.nanos < 1000000000 then t
  else ⟨if later then t.seconds + 1 else t.seconds, t.nanos - 1000000000⟩

def hoursEarlier (t : Timestamp) (hours : Int) : Timestamp :=
  if hours = 0 then t
  else
    let t := t.settled (0 < hours)
    ⟨t.seconds - hours * 3600, t.nanos⟩

/-- A number of hours before `now`; the first timestamp when that is out of range. -/
def cutoff (now : Timestamp) (hours : Int) : Timestamp :=
  let t := now.hoursEarlier hours
  if t.inRange then t else first

end Timestamp

end Stepflow.Time
