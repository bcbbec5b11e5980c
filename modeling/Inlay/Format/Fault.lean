import Inlay.FaultClass
import Inlay.Text.Quoted

/-!
# Why formatting fails

Faults of a format text (its braces and fields), of a field's specification,
and of a specification that does not suit the value it is applied to.
-/

namespace Inlay.Format

/-- Why a format text cannot be filled. -/
inductive Fault where
  | loneOpening
  | loneClosing
  | openingInName
  | conversionMissing
  | colonMissing
  | specificationOpen
  | fieldOpen
  | unsupportedField (name : List Char)
  | unsupportedConversion (c : Char)
  | nestedField
  | tooManyDigits
  | automaticAfterNumbered
  | numberedAfterAutomatic
  | missingArgument (index : Nat)
  | unknownKey (name : List Char)
  | bothSeparators
  | precisionMissing
  | malformed (specification : List Char) (type : String)
  | separatorRefused (separator presentation : Char)
  | unknownPresentation (presentation : Char) (type : String)
  | spaceOnText
  | signOnText
  | zeroCoercionOnText
  | alternateOnText
  | afterSignOnText
  | precisionOnInteger
  | zeroCoercionOnInteger
  | signOnCharacter
  | alternateOnCharacter
  | characterTooLarge
  | notCharacter
  | integerTooLarge
  | precisionTooLarge
  | outOfMemory
  deriving DecidableEq, Repr

namespace Fault

/-- A presentation character in a message; one that ASCII cannot show is
written as an escape. -/
def shown (c : Char) : String :=
  if 32 < c.toNat ∧ c.toNat < 128 then String.singleton c
  else "\\x" ++ String.ofList (Nat.toDigits 16 c.toNat)

def text : Fault → String
  | loneOpening => "Single '\x7b' encountered in format string"
  | loneClosing => "Single '\x7d' encountered in format string"
  | openingInName => "unexpected '\x7b' in field name"
  | conversionMissing => "end of string while looking for conversion specifier"
  | colonMissing => "expected ':' after conversion specifier"
  | specificationOpen => "unmatched '\x7b' in format spec"
  | fieldOpen => "expected '\x7d' before end of string"
  | unsupportedField name =>
    "Unsupported format field '\x7b" ++ String.ofList name ++ "\x7d'"
  | unsupportedConversion c => "Unsupported conversion '!" ++ String.singleton c ++ "'"
  | nestedField => "Nested format fields are not supported"
  | tooManyDigits => "Too many decimal digits in format string"
  | automaticAfterNumbered =>
    "cannot switch from manual field specification to automatic field numbering"
  | numberedAfterAutomatic =>
    "cannot switch from automatic field numbering to manual field specification"
  | missingArgument index =>
    "Replacement index " ++ toString index ++ " out of range for positional args tuple"
  | unknownKey name => Text.quoted (String.ofList name)
  | bothSeparators => "Cannot specify both ',' and '_'."
  | precisionMissing => "Format specifier missing precision"
  | malformed specification type =>
    "Invalid format specifier '" ++ String.ofList specification ++
      "' for object of type '" ++ type ++ "'"
  | separatorRefused separator presentation =>
    "Cannot specify '" ++ String.singleton separator ++ "' with '" ++ shown presentation ++ "'."
  | unknownPresentation presentation type =>
    "Unknown format code '" ++ shown presentation ++ "' for object of type '" ++ type ++ "'"
  | spaceOnText => "Space not allowed in string format specifier"
  | signOnText => "Sign not allowed in string format specifier"
  | zeroCoercionOnText => "Negative zero coercion (z) not allowed in string format specifier"
  | alternateOnText => "Alternate form (#) not allowed in string format specifier"
  | afterSignOnText => "'=' alignment not allowed in string format specifier"
  | precisionOnInteger => "Precision not allowed in integer format specifier"
  | zeroCoercionOnInteger =>
    "Negative zero coercion (z) not allowed in integer format specifier"
  | signOnCharacter => "Sign not allowed with integer format specifier 'c'"
  | alternateOnCharacter => "Alternate form (#) not allowed with integer format specifier 'c'"
  | characterTooLarge => "Python int too large to convert to C long"
  | notCharacter => "%c arg not in range(0x110000)"
  | integerTooLarge => "int too large to convert to float"
  | precisionTooLarge => "precision too big"
  | outOfMemory => "MemoryError"

def faultClass : Fault → FaultClass
  | missingArgument _ => .outOfBounds
  | unknownKey _ => .missingKey
  | characterTooLarge => .overflow
  | notCharacter => .overflow
  | integerTooLarge => .overflow
  | outOfMemory => .noMemory
  | _ => .badValue

end Fault

end Inlay.Format
