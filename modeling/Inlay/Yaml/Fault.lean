import Inlay.FaultClass
import Inlay.Number.Reading
import Inlay.Text.Quoted

/-!
# Why a text is no data

Most faults make the text malformed. Besides these there are scalars whose form
is right and which still name nothing: a month 13, a numeral of too many
digits, a code point that no character has.
-/

namespace Inlay.Yaml

/-- How a text breaks the rules of the format. -/
inductive Malformed where
  | unprintable (c : Char)
  | strayCharacter (c : Char)
  | missingColon
  | misplacedEntry
  | misplacedKey
  | misplacedValue
  | badDirective
  | badAnchor
  | badTag
  | badEscape
  | badBlockHeader
  | unclosedQuote
  | separatorInQuote
  | unexpectedToken
  | repeatedDirective
  | unsupportedVersion (major : Nat)
  | unknownHandle (handle : String)
  | repeatedAnchor (name : String)
  | unknownAlias (name : String)
  | manyDocuments
  | unknownTag (name : String)
  | wrongKind
  | unhashableKey
  | badMerge
  | badBase64
  deriving DecidableEq, Repr

/-- Why a calendar date, a time of day or an offset from universal time does
not exist. -/
inductive MomentFault where
  | year (n : Nat)
  | month
  | day
  | hour
  | minute
  | second
  | offset (minutes : Int)
  deriving DecidableEq, Repr

def minutesPerDay : Int := 1440

/-- A span of whole minutes as days and seconds, the seconds not negative. -/
def spanText (minutes : Int) : String :=
  let days := minutes.fdiv minutesPerDay
  let seconds := minutes.fmod minutesPerDay * 60
  let parts := (if days = 0 then [] else ["days=" ++ toString days]) ++
    (if seconds = 0 then [] else ["seconds=" ++ toString seconds])
  "datetime.timedelta(" ++ (if parts.isEmpty then "0" else ", ".intercalate parts) ++ ")"

def MomentFault.text : MomentFault → String
  | year n => "year " ++ toString n ++ " is out of range"
  | month => "month must be in 1..12"
  | day => "day is out of range for month"
  | hour => "hour must be in 0..23"
  | minute => "minute must be in 0..59"
  | second => "second must be in 0..59"
  | offset minutes =>
    "offset must be a timedelta strictly between -timedelta(hours=24) and " ++
      "timedelta(hours=24), not " ++ spanText minutes ++ "."

/-- Why a text is no data. -/
inductive Fault where
  | malformed (reason : Malformed)
  | notBoolean (word : String)
  | emptyNumeral
  | notInteger (base : Nat) (numeral : String)
  | numeralTooLong (digits : Nat)
  | notFloat (numeral : String)
  /-- A part of a number in base sixty counts more than any floating-point number. -/
  | placeTooHigh
  | notMoment
  | moment (f : MomentFault)
  | codePointTooLarge
  | codePointBeyondWord
  /-- Collections lie too deep inside of each other. -/
  | tooDeep
  deriving DecidableEq, Repr

namespace Fault

def text : Fault → String
  | malformed _ => "Invalid YAML"
  | notBoolean word => Text.quoted word
  | emptyNumeral => "string index out of range"
  | notInteger base numeral => Numeral.notIntegerText base numeral
  | numeralTooLong digits => Numeral.tooLongText digits
  | notFloat numeral => Numeral.notFloatText numeral
  | placeTooHigh => "int too large to convert to float"
  | notMoment => "'NoneType' object has no attribute 'groupdict'"
  | moment f => f.text
  | codePointTooLarge => "chr() arg not in range(0x110000)"
  | codePointBeyondWord => "Python int too large to convert to C int"
  | tooDeep => "maximum recursion depth exceeded"

/-- The class of a fault; none for a malformed text. -/
def class? : Fault → Option FaultClass
  | malformed _ => none
  | notBoolean _ => some .missingKey
  | emptyNumeral => some .outOfBounds
  | notMoment => some .missingMember
  | placeTooHigh => some .overflow
  | codePointBeyondWord => some .overflow
  | tooDeep => some .noMemory
  | _ => some .badValue

end Fault

end Inlay.Yaml
