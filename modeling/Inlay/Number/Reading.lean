import Inlay.Number.Binary64
import Inlay.Text.Digit
import Inlay.Text.Quoted

/-!
# Numbers read from text

Numerals may use the decimal digits of any script and single underscores
between digits. An integer is a sign and digits; a floating-point number may
also have a point, an exponent, or be spelled `inf`, `infinity` or `nan`.
Blanks at the ends are the caller's to trim.
-/

namespace Inlay

namespace Numeral

/-- The number of digits beyond which an integer numeral is refused. -/
def digitLimit : Nat := 4300

/-- The number that decimal digits spell; other characters are passed over. -/
def value (digits : List Char) : Nat :=
  digits.foldl (fun n c => match Text.decimalValue? c with
    | some d => 10 * n + d
    | none => n) 0

/-- Splits off a sign: whether it was a minus, and what follows it. -/
def splitSign : List Char → Bool × List Char
  | '-' :: rest => (true, rest)
  | '+' :: rest => (false, rest)
  | cs => (false, cs)

/-- Whether underscores stand only between two digits, when `previous` is the
character before the text. -/
def underscoresFit (previous : Char) : List Char → Bool
  | [] => previous != '_'
  | '_' :: rest => Text.isDecimalDigit previous && underscoresFit '_' rest
  | c :: rest =>
    (previous != '_' || Text.isDecimalDigit c) && underscoresFit c rest

/-- Why a text is no integer. -/
inductive Fault where
  | malformed
  | tooLong (digits : Nat)
  deriving DecidableEq, Repr

/-- Reads an integer: a sign, then digits with single underscores between
them. Too many digits are a fault of their own, found before anything that
follows the digits is looked at. -/
def readInteger (cs : List Char) : Except Fault Int :=
  let (negative, body) := splitSign cs
  let run := body.takeWhile fun c => Text.isDecimalDigit c || c == '_'
  let digits := run.filter Text.isDecimalDigit
  if run.isEmpty || !underscoresFit ' ' run then .error .malformed
  else if digitLimit < digits.length then .error (.tooLong digits.length)
  else if run.length < body.length then .error .malformed
  else
    let n : Int := value digits
    .ok (if negative then -n else n)

/-- The parts of a decimal numeral: digits before and after the point, and the
power of ten. -/
structure Parts where
  whole : List Char
  fraction : List Char
  power : Int

/-- Reads `e`, a sign and digits; an empty text is the power zero. -/
def readPower? : List Char → Option Int
  | [] => some 0
  | mark :: rest =>
    if mark = 'e' ∨ mark = 'E' then
      let (negative, digits) := splitSign rest
      if digits.isEmpty || !digits.all Text.isDecimalDigit then none
      else
        let n : Int := value digits
        some (if negative then -n else n)
    else none

/-- Reads digits, perhaps a point and more digits, perhaps a power. There is at
least one digit before the power. -/
def readParts? (cs : List Char) : Option Parts :=
  let whole := cs.takeWhile Text.isDecimalDigit
  let afterWhole := cs.drop whole.length
  let (fraction, afterFraction) := match afterWhole with
    | '.' :: more =>
      let digits := more.takeWhile Text.isDecimalDigit
      (digits, more.drop digits.length)
    | more => ([], more)
  if whole.isEmpty && fraction.isEmpty then none
  else (readPower? afterFraction).map fun power => ⟨whole, fraction, power⟩

def Parts.toBinary64 (negative : Bool) (p : Parts) : Binary64 :=
  Binary64.ofDecimal negative (value (p.whole ++ p.fraction)) (p.power - p.fraction.length)

def lowerAscii (c : Char) : Char := if 'A' ≤ c ∧ c ≤ 'Z' then Char.ofNat (c.toNat + 32) else c

/-- Reads a floating-point number; `payload` marks a not-a-number. -/
def readFloat? (payload : Nat) (cs : List Char) : Option Binary64 :=
  let (negative, body) := splitSign cs
  let spelled := String.ofList (body.map lowerAscii)
  if spelled = "inf" ∨ spelled = "infinity" then some (.infinite negative)
  else if spelled = "nan" then some (.nan payload)
  else if !underscoresFit ' ' body then none
  else (readParts? (body.filter (· != '_'))).map (Parts.toBinary64 negative)

/-! ## Messages about texts that are no numerals -/

/-- The longest quoted text that a refused integer numeral is shown with. -/
def shownLength : Nat := 200

def tooLongText (digits : Nat) : String :=
  "Exceeds the limit (" ++ toString digitLimit ++
    " digits) for integer string conversion: value has " ++ toString digits ++
    " digits; use sys.set_int_max_str_digits() to increase the limit"

/-- The message about an integer with too many digits to be written. -/
def tooLongToWriteText : String :=
  "Exceeds the limit (" ++ toString digitLimit ++
    " digits) for integer string conversion; use sys.set_int_max_str_digits() to increase the limit"

def notIntegerText (base : Nat) (text : String) : String :=
  "invalid literal for int() with base " ++ toString base ++ ": " ++
    String.ofList ((Text.quoted text).toList.take shownLength)

/-- The message about a text that is no floating-point number. -/
def notFloatText (text : String) : String :=
  "could not convert string to float: " ++ Text.quoted text

end Numeral

end Inlay
