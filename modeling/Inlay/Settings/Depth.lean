import Inlay.Loading
import Inlay.Settings

/-!
# Integers in settings

An integer may be given as an integer, as a Boolean, as a number without a
fraction, or as a text: digits with a sign, blanks around them, zeros before
them, a point and zeros after them, and single underscores between them.
-/

namespace Inlay.Settings

/-- A blank that may stand around the text of an integer. -/
def isMargin (c : Char) : Bool := Text.isBlank c && !(0x1C ≤ c.toNat && c.toNat ≤ 0x1F)

/-- A text without the blanks around it. -/
def trimMargin (cs : List Char) : List Char :=
  ((cs.dropWhile isMargin).reverse.dropWhile isMargin).reverse

/-- Drops zeros, and underscores after them, before a digit other than zero. One
zero stays before a point and at the end of the text. None if a text starts with
anything else than a digit or a minus. -/
def dropZeros (cs : List Char) : Option (List Char) :=
  match cs with
  | [] => none
  | first :: rest =>
    if first = '-' ∨ ('1' ≤ first ∧ first ≤ '9') then some cs
    else if first ≠ '0' then none
    else
      let zeros := rest.takeWhile fun c => c == '0' || c == '_'
      match rest.drop zeros.length with
      | [] => some [zeros.getLast?.getD '0']
      | c :: more =>
        if '1' ≤ c ∧ c ≤ '9' then some (c :: more)
        else if c = '.' then some (zeros.getLast?.getD '0' :: c :: more)
        else none

/-- Drops a point with nothing but zeros after it. -/
def dropFraction (cs : List Char) : List Char :=
  match cs.dropWhile (· != '.') with
  | [] => cs
  | _ :: zeros => if zeros.all (· == '0') then cs.takeWhile (· != '.') else cs

/-- Whether two underscores stand side by side. -/
def hasDoubleUnderscore : List Char → Bool
  | '_' :: '_' :: _ => true
  | _ :: rest => hasDoubleUnderscore rest
  | [] => false

/-- Drops underscores that stand alone between other characters. -/
def dropUnderscores (cs : List Char) : List Char :=
  if cs.head? = some '_' || cs.getLast? = some '_' || hasDoubleUnderscore cs then cs
  else cs.filter (· != '_')

/-- Reads an integer in its usual form: no zeros before it. -/
def readCanonical (cs : List Char) : Except SettingProblem Int :=
  let (negative, digits) := match cs with
    | '-' :: rest => (true, rest)
    | _ => (false, cs)
  if digits.isEmpty || !digits.all Text.isAsciiDigit then .error .unreadableInteger
  else if digits.head? = some '0' && digits.length ≠ 1 then .error .unreadableInteger
  else if Numeral.digitLimit < digits.length then .error .integerTooLong
  else
    let n : Int := Numeral.value digits
    .ok (if negative then -n else n)

/-- A text in the usual form of an integer, if it is close to one. -/
def canonicalForm (cs : List Char) : Option (List Char) :=
  let cs := trimMargin cs
  let cs := match cs with
    | '+' :: rest => if rest.head? = some '-' then cs else rest
    | _ => cs
  (dropZeros cs).map fun cs => dropUnderscores (dropFraction cs)

def readIntegerText (s : String) : Except SettingProblem Int :=
  match canonicalForm s.toList with
  | some cs => readCanonical cs
  | none => .error .unreadableInteger

/-- The bound that whole numbers with a point have to stay below. -/
def floatBound : Int := 0x8000000000000000

def readInteger : Data → Except SettingProblem Int
  | .integer n => .ok n
  | .boolean b => .ok (if b then 1 else 0)
  | .text s => readIntegerText s
  | .bytes bs =>
    match Text.Utf8.decodeFrom 0 none [] bs with
    | .ok cs => readIntegerText (String.ofList cs)
    | .error _ => .error .unreadableInteger
  | .float x =>
    match x.truncate? with
    | none => .error .notFinite
    | some n =>
      if !(Data.sameKey (.integer n) (.float x)) then .error .fractional
      else if n.natAbs < floatBound.natAbs then .ok n
      else .error .integerTooLong
  | _ => .error .notInteger

def readDepth (d : Data) : Except SettingProblem Nat :=
  match readInteger d with
  | .error p => .error p
  | .ok n =>
    if n < leastDepth then .error (.tooSmall leastDepth)
    else if greatestDepth < n then .error (.tooLarge greatestDepth)
    else .ok n.toNat

end Inlay.Settings
