import Inlay.FaultClass
import Inlay.Text.Quoted

/-!
# Why a moment cannot be shown

Instants that no calendar year between 1 and 9999 holds, and keys that name no
time zone.
-/

namespace Inlay.Time

/-- Why a moment cannot be shown. -/
inductive Fault where
  | notANumber
  | quotientTooLarge
  | beyondClock
  | beyondCalendar
  | yearOutOfRange (year : Int)
  | localOutOfRange
  | absoluteKey (key : String)
  | unnormalizedKey (key : String)
  | escapingKey (key : String)
  | unknownZone (key : String)
  deriving DecidableEq, Repr

namespace Fault

def text : Fault → String
  | notANumber => "Invalid value NaN (not a number)"
  | quotientTooLarge => "integer division result too large for a float"
  | beyondClock => "timestamp out of range for platform time_t"
  | beyondCalendar => "[Errno 75] Value too large for defined data type"
  | yearOutOfRange year => "year " ++ toString year ++ " is out of range"
  | localOutOfRange => "date value out of range"
  | absoluteKey key => "ZoneInfo keys may not be absolute paths, got: " ++ key
  | unnormalizedKey key => "ZoneInfo keys must be normalized relative paths, got: " ++ key
  | escapingKey key => "ZoneInfo keys must refer to subdirectories of TZPATH, got: " ++ key
  | unknownZone key => Text.quoted ("No time zone found with key " ++ key)

def faultClass : Fault → FaultClass
  | quotientTooLarge => .overflow
  | beyondClock => .overflow
  | beyondCalendar => .system
  | localOutOfRange => .overflow
  | unknownZone _ => .unknownZone
  | _ => .badValue

end Fault

end Inlay.Time
