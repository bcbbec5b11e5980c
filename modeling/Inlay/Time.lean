import Inlay.Time.Pattern
import Inlay.Time.Zones

/-!
# Moments of local time

An instant becomes a moment in a zone if both its day in universal time and
its local day are in the calendar, which holds the years 1 to 9999.
-/

namespace Inlay.Time

def inCalendar (year : Int) : Bool := 1 ≤ year && year ≤ 9999

/-- The years that a clock can count, as they differ from 1900. -/
def inClock (year : Int) : Bool := -0x80000000 ≤ year - 1900 && year - 1900 < 0x80000000

def Moment.ofInstant (zone : Zone) (i : Instant) : Except Fault Moment :=
  let year := yearOfDay (i.seconds / 86400)
  if !inClock year then .error .beyondCalendar
  else if !inCalendar year then .error (.yearOutOfRange year)
  else
    let localTime := zone.at i.seconds
    let shown := i.seconds + localTime.offset
    if inCalendar (yearOfDay (shown / 86400)) then
      .ok ⟨shown / 86400, (shown % 86400).toNat, i.micros, localTime⟩
    else .error .localOutOfRange

end Inlay.Time
