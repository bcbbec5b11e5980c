import Inlay.Yaml.Moment
import Inlay.Yaml.Tag

/-!
# What plain scalars mean

A scalar without quotes and without a tag is a Boolean, a number, a point in
time or nothing at all if it is written like one, and a text otherwise. A line
feed at its end is not looked at.
-/

namespace Inlay.Yaml.Implicit

/-- The words for the two Booleans, in lower case. -/
def booleanWords : List (String × Bool) :=
  [("yes", true), ("no", false), ("true", true), ("false", false), ("on", true), ("off", false)]

def upperAscii (c : Char) : Char := if 'a' ≤ c ∧ c ≤ 'z' then Char.ofNat (c.toNat - 32) else c

/-- A word in the spellings that count: in lower case, with a capital, and in
upper case. -/
def spellings (word : List Char) : List (List Char) :=
  [word, word.take 1 |>.map upperAscii |>.append (word.drop 1), word.map upperAscii]

def isSpelling (cs : List Char) (word : String) : Bool := (spellings word.toList).contains cs

def isBoolean (cs : List Char) : Bool := booleanWords.any fun (word, _) => isSpelling cs word

def isNull (cs : List Char) : Bool := cs == [] || cs == ['~'] || isSpelling cs "null"

def isDigitPart (c : Char) : Bool := isDigit c || c == '_'

def isOctalPart (c : Char) : Bool := ('0' ≤ c && c ≤ '7') || c == '_'

def isBinaryPart (c : Char) : Bool := c == '0' || c == '1' || c == '_'

def isHexPart (c : Char) : Bool := isHexDigit c || c == '_'

/-- A text after a sign, if it has one. -/
def unsigned : List Char → List Char
  | '+' :: rest => rest
  | '-' :: rest => rest
  | cs => cs

/-- Whether a text has at least one character and all are in a class. -/
def allOf (p : Char → Bool) (cs : List Char) : Bool := !cs.isEmpty && cs.all p

/-- A run of digits that starts with a digit. -/
def isNumeral (cs : List Char) : Bool := cs.head?.any isDigit && cs.all isDigitPart

/-- A part of a number in base sixty: one digit, or two below sixty. -/
def isSixtieth : List Char → Bool
  | [d] => isDigit d
  | [high, low] => '0' ≤ high && high ≤ '5' && isDigit low
  | _ => false

/-- Whether a numeral is followed by parts in base sixty, each after a colon. -/
def isSexagesimal (cs : List Char) : Bool :=
  match Text.cutAt (· == ':') cs with
  | whole :: parts => isNumeral whole && !parts.isEmpty && parts.all isSixtieth
  | [] => false

/-- Whether a text starts with a digit other than zero. -/
def startsPositive (cs : List Char) : Bool := cs.head?.any fun c => '1' ≤ c && c ≤ '9'

def isInteger (cs : List Char) : Bool :=
  match unsigned cs with
  | '0' :: 'b' :: digits => allOf isBinaryPart digits
  | '0' :: 'x' :: digits => allOf isHexPart digits
  | '0' :: digits => digits.all isOctalPart
  | body => startsPositive body && (isNumeral body || isSexagesimal body)

/-- An exponent, which must have a sign, or nothing. -/
def isPower : List Char → Bool
  | [] => true
  | [_] => false
  | mark :: sign :: digits =>
    (mark == 'e' || mark == 'E') && (sign == '+' || sign == '-') && allOf isDigit digits

/-- The digits after a point and what may follow them. -/
def isFraction (cs : List Char) : Bool := isPower (cs.dropWhile isDigitPart)

def isFloat (cs : List Char) : Bool :=
  let body := unsigned cs
  let whole := body.takeWhile (· != '.')
  match body.dropWhile (· != '.') with
  | [] => false
  | _ :: fraction =>
    if whole.isEmpty then
      isSpelling fraction "inf" ||
        (body == cs && (fraction == "nan".toList || fraction == "NaN".toList ||
          fraction == "NAN".toList || (fraction.head?.any isDigit && isFraction fraction)))
    else
      (isNumeral whole && isFraction fraction) ||
        (isSexagesimal whole && fraction.all isDigitPart)

/-- The tag that a scalar without quotes has by what it looks like. -/
def tagOf (text : String) : Tag :=
  let cs := text.toList
  let cs := if cs.getLast? = some '\n' then cs.dropLast else cs
  if text.isEmpty then .null
  else if cs.isEmpty then .text
  else if isBoolean cs then .boolean
  else if isFloat cs then .float
  else if isInteger cs then .integer
  else if cs = ['<', '<'] then .merge
  else if isNull cs then .null
  else if Moment.isWritten cs then .moment
  else if cs = ['='] then .value
  else .text

end Inlay.Yaml.Implicit
