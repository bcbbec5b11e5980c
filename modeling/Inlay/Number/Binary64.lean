/-!
# Binary floating-point numbers of 64 bits

A finite number is a significand below `2 ^ 53` times a power of two, and every
finite number is a whole multiple of the smallest positive one, `2 ^ -1074`.
So its exact value is one integer, `scaled`, counted in that unit. Order,
equality and the four operations are all defined on `scaled`: an operation
computes its exact result and rounds once, with `nearest`. Nothing here
depends on the machine's arithmetic.

A not-a-number carries a payload, which tells one from another; it takes part
in identity only, never in order or equality.
-/

namespace Inlay

namespace Binary64

/-- The number of units `2 ^ -1074` in one. -/
def unitsPerOne : Nat := Nat.pow 2 1074

/-- The least significand that fills its 53 bits. -/
def fullWidth : Nat := 0x10000000000000

/-- A significand and a place (the power of two that multiplies it, counted
from the unit) in their only form: the significand fills its 53 bits unless
the place is the lowest. -/
def Fits (significand place : Nat) : Prop :=
  significand < 2 * fullWidth ∧ place ≤ 2045 ∧ (fullWidth ≤ significand ∨ place = 0)

instance (significand place : Nat) : Decidable (Fits significand place) := by
  unfold Fits; infer_instance

end Binary64

/-- A number of the 64-bit binary format. -/
inductive Binary64 where
  | nan (payload : Nat)
  | infinite (negative : Bool)
  | finite (negative : Bool) (significand place : Nat)
      (fits : Binary64.Fits significand place)
  deriving DecidableEq, Repr

namespace Binary64

def zero (negative : Bool) : Binary64 := .finite negative 0 0 (by decide)

instance : Inhabited Binary64 := ⟨zero false⟩

/-- The quotient rounded to the nearest whole number; a half goes to the even
neighbour. -/
def roundQuotient (num den : Nat) : Nat :=
  let whole := num / den
  let twice := 2 * (num % den)
  if twice < den then whole
  else if den < twice then whole + 1
  else whole + whole % 2

/-- A significand and place read as a number; what lies beyond the largest
finite number is infinite. -/
def ofParts (negative : Bool) (significand place : Nat) : Binary64 :=
  if h : Fits significand place then .finite negative significand place h
  else .infinite negative

/-- The number nearest to `num / den` units, with a tie going to the even
significand. -/
def nearest (negative : Bool) (num den : Nat) : Binary64 :=
  let place := (num / den).log2 - 52
  let significand := roundQuotient num (den * Nat.pow 2 place)
  if significand = 2 * fullWidth then ofParts negative fullWidth (place + 1)
  else ofParts negative significand place

/-- How many units a finite number is, with its sign. -/
def scaled? : Binary64 → Option Int
  | .finite negative significand place _ =>
    let size : Int := (significand * Nat.pow 2 place : Nat)
    some (if negative then -size else size)
  | _ => none

def isNaN : Binary64 → Bool
  | .nan _ => true
  | _ => false

def isFinite : Binary64 → Bool
  | .finite .. => true
  | _ => false

/-- The sign bit; a not-a-number counts as positive. -/
def isNegative : Binary64 → Bool
  | .nan _ => false
  | .infinite negative => negative
  | .finite negative .. => negative

def isZero : Binary64 → Bool
  | .finite _ significand .. => significand == 0
  | _ => false

/-- The opposite number. -/
def neg : Binary64 → Binary64
  | .nan payload => .nan payload
  | .infinite negative => .infinite (!negative)
  | .finite negative significand place h => .finite (!negative) significand place h

/-- The number nearest to a whole count of units; `zeroSign` is the sign that
a zero gets. -/
def ofScaled (zeroSign : Bool) (units : Int) : Binary64 :=
  if units = 0 then zero zeroSign else nearest (units < 0) units.natAbs 1

/-- The number nearest to an integer; infinite if the integer is too large. -/
def ofInt (n : Int) : Binary64 := ofScaled false (n * unitsPerOne)

/-- The number nearest to `digits * 10 ^ exponent`. Exponents that lead out of
the format whatever the digits are cut short, so that no huge power is formed. -/
def ofDecimal (negative : Bool) (digits : Nat) (exponent : Int) : Binary64 :=
  if digits = 0 then zero negative
  else
    let magnitude := exponent + (Nat.log2 digits * 30103 / 100000 : Nat)
    if magnitude > 320 then .infinite negative
    else if magnitude < -400 then zero negative
    else if 0 ≤ exponent then
      nearest negative (digits * Nat.pow 10 exponent.toNat * unitsPerOne) 1
    else
      nearest negative (digits * unitsPerOne) (Nat.pow 10 (-exponent).toNat)

/-- The integer nearest to the number on the side of zero, if it is finite. -/
def truncate? (x : Binary64) : Option Int :=
  x.scaled?.map fun units => units.tdiv unitsPerOne

/-! ## Operations

Each gives the exact result rounded once. `payload` marks a not-a-number that
the operation makes. -/

def add (payload : Nat) (x y : Binary64) : Binary64 :=
  match x, y with
  | .nan _, _ => .nan payload
  | _, .nan _ => .nan payload
  | .infinite a, .infinite b => if a = b then .infinite a else .nan payload
  | .infinite a, _ => .infinite a
  | _, .infinite b => .infinite b
  | .finite a m p _, .finite b n q _ =>
    let left : Int := (m * Nat.pow 2 p : Nat)
    let right : Int := (n * Nat.pow 2 q : Nat)
    ofScaled (a && b) ((if a then -left else left) + (if b then -right else right))

def sub (payload : Nat) (x y : Binary64) : Binary64 := add payload x y.neg

def mul (payload : Nat) (x y : Binary64) : Binary64 :=
  let negative := x.isNegative != y.isNegative
  match x, y with
  | .nan _, _ => .nan payload
  | _, .nan _ => .nan payload
  | .infinite _, y => if y.isZero then .nan payload else .infinite negative
  | x, .infinite _ => if x.isZero then .nan payload else .infinite negative
  | .finite _ m p _, .finite _ n q _ =>
    if m * n = 0 then zero negative
    else nearest negative (m * n * Nat.pow 2 (p + q)) unitsPerOne

/-- The quotient; the divisor is not zero. -/
def div (payload : Nat) (x y : Binary64) : Binary64 :=
  let negative := x.isNegative != y.isNegative
  match x, y with
  | .nan _, _ => .nan payload
  | _, .nan _ => .nan payload
  | .infinite _, .infinite _ => .nan payload
  | .infinite _, _ => .infinite negative
  | .finite .., .infinite _ => zero negative
  | .finite _ m p _, .finite _ n q _ =>
    if n = 0 then .nan payload
    else if m = 0 then zero negative
    else nearest negative (m * Nat.pow 2 p * unitsPerOne) (n * Nat.pow 2 q)

/-- What is left of `x` after taking away `y` as often as it fits, with the
sign of `x`; none if `x` is infinite or `y` is zero. The result is exact. -/
def remainder? (payload : Nat) (x y : Binary64) : Option Binary64 :=
  match x, y with
  | .nan _, _ => some (.nan payload)
  | _, .nan _ => some (.nan payload)
  | .infinite _, _ => none
  | x, .infinite _ => some x
  | .finite a m p _, .finite _ n q _ =>
    if n = 0 then none
    else
      let left := m * Nat.pow 2 p % (n * Nat.pow 2 q)
      some (ofScaled a (if a then -(left : Int) else left))

/-! ## Exact value and order -/

/-- Where a number stands on the line, ends included. -/
inductive Position where
  | below
  | at (units : Int)
  | above
  deriving DecidableEq, Repr

/-- The place of a number on the line; a not-a-number has none. -/
def position? : Binary64 → Option Position
  | .nan _ => none
  | .infinite negative => some (if negative then .below else .above)
  | .finite negative significand place _ =>
    let size : Int := (significand * Nat.pow 2 place : Nat)
    some (.at (if negative then -size else size))

namespace Position

/-- The place of an integer on the same line. -/
def ofInt (n : Int) : Position := .at (n * unitsPerOne)

def lt : Position → Position → Bool
  | .below, .below => false
  | .below, _ => true
  | .at a, .at b => a < b
  | .at _, .above => true
  | .at _, .below => false
  | .above, _ => false

end Position

/-- Equality of numbers: zeros of either sign are equal, and a not-a-number
equals nothing. -/
def equals (x y : Binary64) : Bool :=
  match x.position?, y.position? with
  | some a, some b => a = b
  | _, _ => false

/-- Sameness of keys: equality, except that a not-a-number is the same as one
with its payload. -/
def same (x y : Binary64) : Bool :=
  match x, y with
  | .nan a, .nan b => a = b
  | x, y => x.equals y

end Binary64

end Inlay
