import Inlay.Format.Fault
import Inlay.Number.Reading
import Inlay.Regex.Fault
import Inlay.Time.Fault
import Inlay.Value.Key

/-!
# Why a call of a built-in function fails

Each way in which a routine of the library refuses its arguments, and the
class that the failure belongs to.
-/

namespace Inlay

/-- Why a routine fails. -/
inductive CallFault where
  | expected (what : String) (found : String)
  | notComparable (left right : String)
  | integerOverflow
  | integerDivisionByZero
  | floatDivisionByZero
  | moduloByZero
  | mathDomain
  | integerTooLarge
  | emptySeparator
  | headOfEmpty
  | rangeTooLarge (size : Int)
  | notInteger (text : String)
  | numeralTooLong (digits : Nat)
  | notFloat (text : String)
  | infinityToInteger
  | nanToInteger
  | key (fault : KeyFault)
  | format (fault : Format.Fault)
  | time (fault : Time.Fault)
  | regex (fault : Regex.Fault) (source : String)
  /-- A failure of a host's routine: the name of its class and its text. -/
  | host (className : String) (text : String)
  deriving DecidableEq, Repr

namespace CallFault

/-- The greatest number of elements that `range` builds. -/
def rangeLimit : Int := 1000000

def text : CallFault → String
  | expected what found => "expected " ++ what ++ ", got " ++ found
  | notComparable left right => "cannot compare " ++ left ++ " with " ++ right
  | integerOverflow => "integer result out of 64-bit range"
  | integerDivisionByZero => "integer division by zero"
  | floatDivisionByZero => "float division by zero"
  | moduloByZero => "modulo by zero"
  | mathDomain => "math domain error"
  | integerTooLarge => "int too large to convert to float"
  | emptySeparator => "separator must not be empty"
  | headOfEmpty => "head of empty list"
  | rangeTooLarge size =>
    "range of " ++ toString size ++ " elements exceeds the limit of " ++ toString rangeLimit
  | notInteger s => Numeral.notIntegerText 10 s
  | numeralTooLong digits => Numeral.tooLongText digits
  | notFloat s => Numeral.notFloatText s
  | infinityToInteger => "cannot convert float infinity to integer"
  | nanToInteger => "cannot convert float NaN to integer"
  | key fault => fault.text
  | format fault => fault.text
  | time fault => fault.text
  | regex fault source => fault.text source.toList
  | host className text => if text.isEmpty then className else text

/-- The class of a fault; a host's routine has classes of its own. -/
def class? : CallFault → Option FaultClass
  | expected _ _ => some .wrongType
  | notComparable _ _ => some .wrongType
  | integerOverflow => some .overflow
  | integerDivisionByZero => some .zeroDivision
  | floatDivisionByZero => some .zeroDivision
  | moduloByZero => some .zeroDivision
  | mathDomain => some .badValue
  | integerTooLarge => some .overflow
  | emptySeparator => some .badValue
  | headOfEmpty => some .outOfBounds
  | rangeTooLarge _ => some .badValue
  | notInteger _ => some .badValue
  | numeralTooLong _ => some .badValue
  | notFloat _ => some .badValue
  | infinityToInteger => some .overflow
  | nanToInteger => some .badValue
  | key _ => some .wrongType
  | format fault => some fault.faultClass
  | time fault => some fault.faultClass
  | regex fault _ => some fault.cause.faultClass
  | host _ _ => none

end CallFault

/-- The result of a routine. -/
abbrev Outcome (α : Type) := Except CallFault α

end Inlay
