import Inlay.Format.Layout
import Inlay.Number.Display

/-!
# Numbers under a specification

Integers are written in base two, eight, ten or sixteen or as the character
that they number; floating-point numbers with an exponent, with a fixed count
of places, in the shorter of the two forms, or as percentages.
-/

namespace Inlay.Format

/-! ## Integers -/

/-- The base of a presentation and the letter that marks it. -/
def baseOf : Char → Nat × List Char
  | 'b' => (2, ['0', 'b'])
  | 'o' => (8, ['0', 'o'])
  | 'x' => (16, ['0', 'x'])
  | 'X' => (16, ['0', 'X'])
  | _ => (10, [])

/-- The whole numbers of a machine word. -/
def isWord (n : Int) : Bool := -0x8000000000000000 ≤ n && n < 0x8000000000000000

/-- The character that an integer numbers. -/
def layCharacter (spec : Spec) (n : Int) : Except Fault (List Char) :=
  if spec.sign.isSome then .error .signOnCharacter
  else if spec.alternate then .error .alternateOnCharacter
  else if !isWord n then .error .characterTooLarge
  else if n < 0 ∨ 0x10FFFF < n then .error .notCharacter
  else .ok (layNumber spec ⟨false, [], [], [Char.ofNat n.toNat]⟩)

def layInteger (spec : Spec) (n : Int) : Except Fault (List Char) :=
  if spec.precision.isSome then .error .precisionOnInteger
  else if spec.coerceZero then .error .zeroCoercionOnInteger
  else if spec.presentation = 'c' then layCharacter spec n
  else
    let (base, mark) := baseOf spec.presentation
    let digits := Nat.toDigits base n.natAbs
    let shown := if spec.presentation = 'X' then digits.map Char.toUpper else digits
    .ok (layNumber spec ⟨n < 0, if spec.alternate then mark else [], shown, []⟩)

/-! ## Floating-point numbers -/

/-- The significant digits of a number without final zeros, and how many of
them stand before the point (less than one if zeros follow the point first).
Zero is the one digit `0`. -/
structure Digits where
  digits : List Char
  point : Int
  deriving Repr

def Digits.ofDecimal (d : Decimal) : Digits :=
  if d.digits = 0 then ⟨['0'], 1⟩
  else
    let all := Decimal.digitsOf d.digits
    ⟨(all.reverse.dropWhile (· == '0')).reverse, all.length + d.exponent⟩

/-- Whether a number was rounded to nothing but zeros. -/
def Digits.isZero (d : Digits) : Bool := d.digits == ['0']

/-- Whole digits and the digits after the point, zeros added up to `stop`
places from the first digit. -/
def Digits.sides (d : Digits) (stop : Int) : List Char × List Char :=
  let count := d.point.toNat
  let whole :=
    if d.point ≤ 0 then ['0']
    else d.digits.take count ++ List.replicate (count - d.digits.length) '0'
  let after := List.replicate (-d.point).toNat '0' ++ d.digits.drop count
  (whole, after ++ List.replicate ((stop - d.point).toNat - after.length) '0')

/-- The forms of a floating-point number: with an exponent, with fixed places,
the shorter one to a precision, the same but with a digit after the point,
and the one with the fewest digits that read back. -/
inductive FloatForm where
  | scientific
  | fixed
  | general
  | generalPointed
  | shortest
  deriving DecidableEq, Repr

namespace FloatForm

/-- Whether a number without an exponent always gets a digit after its point. -/
def pointed : FloatForm → Bool
  | generalPointed => true
  | shortest => true
  | _ => false

def digits (form : FloatForm) (precision significand place : Nat) : Digits :=
  let (num, den) := Binary64.ratio significand place
  .ofDecimal <| match form with
    | scientific => Decimal.significantDigits num den (precision + 1)
    | fixed => Decimal.fixedPlaces num den precision
    | shortest => Binary64.shortest significand place
    | _ => Decimal.significantDigits num den (max precision 1)

/-- Whether a number whose point is at `point` gets an exponent. -/
def usesExponent (form : FloatForm) (precision : Nat) (point : Int) : Bool :=
  match form with
  | scientific => true
  | fixed => false
  | general => point ≤ -4 || max precision 1 < point
  | generalPointed => point ≤ -4 || (max precision 1 : Int) - 1 < point
  | shortest => point ≤ -4 || 16 < point

/-- How many places from the first digit are written at least. -/
def stop (form : FloatForm) (precision : Nat) (alternate : Bool) (d : Digits) : Int :=
  match form with
  | scientific => precision + 1
  | fixed => d.point + precision
  | shortest => d.digits.length
  | _ => if alternate then max precision 1 else d.digits.length

/-- The whole digits and the rest of a finite number. -/
def write (form : FloatForm) (precision : Nat) (alternate : Bool) (mark : Char)
    (d : Digits) : List Char × List Char :=
  let exponential := form.usesExponent precision d.point
  let placed := if exponential then { d with point := 1 } else d
  let stop := max (form.stop precision alternate d)
    (if form.pointed && !exponential then placed.point + 1 else placed.point)
  let (whole, after) := placed.sides stop
  let fraction := if after.isEmpty && !alternate then [] else '.' :: after
  let power := if exponential then Decimal.exponentText mark (d.point - 1) else []
  (whole, fraction ++ power)

end FloatForm

/-- The greatest precision of a floating-point number. -/
def precisionLimit : Nat := 0x7FFFFFFF

/-- The form that a presentation stands for and its precision. -/
def formOf (spec : Spec) : FloatForm × Nat :=
  match spec.presentation with
  | 'e' | 'E' => (.scientific, spec.precision.getD 6)
  | 'f' | 'F' | '%' => (.fixed, spec.precision.getD 6)
  | '\x00' =>
    match spec.precision with
    | some n => (.generalPointed, n)
    | none => (.shortest, 0)
  | _ => (.general, spec.precision.getD 6)

def floatParts (spec : Spec) (x : Binary64) : NumberParts :=
  let upper := ['E', 'F', 'G'].contains spec.presentation
  let tail := if spec.presentation = '%' then ['%'] else []
  let word (s : String) : List Char := if upper then s.toList.map Char.toUpper else s.toList
  match x with
  | .nan _ => ⟨false, [], [], word "nan" ++ tail⟩
  | .infinite negative => ⟨negative, [], [], word "inf" ++ tail⟩
  | .finite negative significand place _ =>
    let (form, precision) := formOf spec
    let d := form.digits precision significand place
    let (whole, rest) :=
      form.write precision spec.alternate (if upper then 'E' else 'e') d
    ⟨negative && !(spec.coerceZero && d.isZero), [], whole, rest ++ tail⟩

/-- A floating-point number in one of its forms; a percentage is first
multiplied by a hundred. -/
def layFloat (spec : Spec) (x : Binary64) : Except Fault (List Char) :=
  if precisionLimit < spec.precision.getD 0 then .error .precisionTooLarge
  else
    let y := if spec.presentation = '%' then Binary64.mul 0 x (.ofInt 100) else x
    .ok (layNumber spec (floatParts spec y))

end Inlay.Format
