import Inlay.Library.Argument
import Inlay.Time

/-!
# Times
-/

namespace Inlay

namespace Times

/-- The zone that times are shown in unless another is named. -/
def defaultZone : Value := .string "UTC"

/-- A number of milliseconds shown under a pattern in a zone. The types of the
arguments are checked first, then the zone, then the number. -/
def format (millis pattern zone : Value) : Outcome Value := do
  let instant ← match millis with
    | .integer n => .ok (Time.Instant.ofMillis n)
    | .float x => .ok (Time.Instant.ofFloatMillis x)
    | v => Argument.mismatch "Integer or Float" v
  let text ← Argument.string pattern
  let key ← Argument.string zone
  let moment : Except Time.Fault Time.Moment := do
    let zone ← Time.Zones.find key
    Time.Moment.ofInstant zone (← instant)
  match moment with
  | .ok m => return .string (Time.Pattern.fill text m)
  | .error fault => throw (.time fault)

end Times

end Inlay
