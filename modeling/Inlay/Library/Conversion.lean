import Inlay.Library.Arithmetic
import Inlay.Number.Reading
import Inlay.Text.Blank
import Inlay.Value.Display

/-!
# Conversion between numbers and strings
-/

namespace Inlay

namespace Conversion

/-- The types that can become numbers. -/
def convertible : String := "String, Integer or Float"

/-- A string read as an integer, or a number without its fraction. -/
def toInteger (v : Value) : Outcome Value :=
  match v with
  | .integer n => .ok (.integer n)
  | .float (.nan _) => .error .nanToInteger
  | .float x =>
    match x.truncate? with
    | some n => (Number.bounded n).map Value.integer
    | none => .error .infinityToInteger
  | .string s =>
    let trimmed := Text.trim s.toList
    match Numeral.readInteger trimmed with
    | .ok n => (Number.bounded n).map Value.integer
    | .error .malformed => .error (.notInteger (String.ofList trimmed))
    | .error (.tooLong digits) => .error (.numeralTooLong digits)
  | v => Argument.mismatch convertible v

/-- A string read as a floating-point number, or the number nearest to an
integer. -/
def toFloat (payload : Nat) (v : Value) : Outcome Value :=
  match v with
  | .integer n => (Number.integerToFloat n).map Value.float
  | .float x => .ok (.float x)
  | .string s =>
    let trimmed := Text.trim s.toList
    match Numeral.readFloat? payload trimmed with
    | some x => .ok (.float x)
    | none => .error (.notFloat (String.ofList trimmed))
  | v => Argument.mismatch convertible v

def toString (v : Value) : Outcome Value := .ok (.string v.text)

end Conversion

end Inlay
