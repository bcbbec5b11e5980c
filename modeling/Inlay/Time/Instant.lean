import Inlay.Number.Binary64
import Inlay.Time.Fault

/-!
# Instants

Whole seconds of the epoch and microseconds within the second, read from a
number of milliseconds. The number is first divided by a thousand as a
floating-point number and then rounded to a microsecond, a half to the even
neighbour.
-/

namespace Inlay.Time

/-- A point in time. -/
structure Instant where
  seconds : Int
  micros : Nat
  deriving DecidableEq, Repr

namespace Instant

def microsPerSecond : Int := 1000000

/-- A finite number of seconds with its fraction rounded to microseconds. -/
def ofFinite (negative : Bool) (size : Nat) : Except Fault Instant :=
  let whole : Int := size / Binary64.unitsPerOne
  let fraction := Binary64.ofScaled negative
    (if negative then -(size % Binary64.unitsPerOne : Nat) else (size % Binary64.unitsPerOne : Nat))
  let scaled := Binary64.mul 0 fraction (.ofInt microsPerSecond)
  let micros : Int := Binary64.roundQuotient ((scaled.scaled?.getD 0).natAbs) Binary64.unitsPerOne
  let seconds := if negative then -whole else whole
  let (seconds, micros) :=
    if negative then
      if micros = 0 then (seconds, 0) else (seconds - 1, microsPerSecond - micros)
    else if microsPerSecond ≤ micros then (seconds + 1, micros - microsPerSecond)
    else (seconds, micros)
  if -0x8000000000000000 ≤ seconds ∧ seconds < 0x8000000000000000 then .ok ⟨seconds, micros.toNat⟩
  else .error .beyondClock

def ofSeconds : Binary64 → Except Fault Instant
  | .nan _ => .error .notANumber
  | .infinite _ => .error .beyondClock
  | .finite negative significand place _ => ofFinite negative (significand * Nat.pow 2 place)

/-- An instant from a whole number of milliseconds. -/
def ofMillis (n : Int) : Except Fault Instant :=
  let seconds :=
    if n = 0 then Binary64.zero false
    else Binary64.nearest (n < 0) (n.natAbs * Binary64.unitsPerOne) 1000
  if seconds.isFinite then ofSeconds seconds else .error .quotientTooLarge

/-- An instant from a number of milliseconds. -/
def ofFloatMillis (x : Binary64) : Except Fault Instant :=
  ofSeconds (Binary64.div 0 x (.ofInt 1000))

end Instant

end Inlay.Time
