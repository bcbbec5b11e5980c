import Inlay.Number.Binary64

/-!
# Decimals of binary numbers

A decimal is a whole number times a power of ten. Two questions are answered
here: which decimal has the fewest digits and still reads back as a given
binary number (`Binary64.shortest`), and which one is nearest when the number
of digits, or of places after the point, is fixed (`significantDigits`,
`fixedPlaces`). All of it is exact integer arithmetic on a quotient
`num / den`.
-/

namespace Inlay

/-- The number `digits * 10 ^ exponent`. -/
structure Decimal where
  digits : Nat
  exponent : Int
  deriving DecidableEq, Repr

namespace Decimal

/-- The decimal digits of a number, highest first; zero has one digit. -/
def digitsOf (n : Nat) : List Char := Nat.toDigits 10 n

/-- The quotient `num * 10 ^ shift / den`, rounded with ties to even. -/
def roundShifted (num den : Nat) (shift : Int) : Nat :=
  if 0 ≤ shift then Binary64.roundQuotient (num * Nat.pow 10 shift.toNat) den
  else Binary64.roundQuotient num (den * Nat.pow 10 (-shift).toNat)

/-- Whether `num / den` is at least `10 ^ k`. -/
def reaches (num den : Nat) (k : Int) : Bool :=
  if 0 ≤ k then den * Nat.pow 10 k.toNat ≤ num else den ≤ num * Nat.pow 10 (-k).toNat

/-- Climbs from `k` to the highest power of ten that `num / den` reaches. -/
def climb (num den : Nat) : Nat → Int → Int
  | 0, k => k
  | steps + 1, k => if reaches num den (k + 1) then climb num den steps (k + 1) else k

/-- The power of ten of the first digit of a positive `num / den`. -/
def leadingExponent (num den : Nat) : Int :=
  let binary : Int := (num.log2 : Int) - den.log2
  climb num den 4 ((binary - 1) * 30103 / 100000 - 1)

/-- `num / den` rounded to `count` significant digits (`count` positive). -/
def significantDigits (num den count : Nat) : Decimal :=
  if num = 0 then ⟨0, 1 - (count : Int)⟩
  else
    let first := leadingExponent num den
    let last := first - ((count : Int) - 1)
    let digits := roundShifted num den (-last)
    if digits = Nat.pow 10 count then ⟨Nat.pow 10 (count - 1), last + 1⟩ else ⟨digits, last⟩

/-- `num / den` rounded to `places` places after the point. -/
def fixedPlaces (num den places : Nat) : Decimal :=
  ⟨roundShifted num den places, -(places : Int)⟩

/-- Takes off final zeros, at most `steps` of them. -/
def trimZeros : Nat → Decimal → Decimal
  | 0, d => d
  | steps + 1, d =>
    if d.digits ≠ 0 ∧ d.digits % 10 = 0 then trimZeros steps ⟨d.digits / 10, d.exponent + 1⟩
    else d

end Decimal

namespace Binary64

/-- The size of a finite number as a quotient of whole numbers. -/
def ratio (significand place : Nat) : Nat × Nat := (significand * Nat.pow 2 place, unitsPerOne)

/-- Whether a decimal reads back as the finite number of these parts. -/
def readsBack (significand place : Nat) (d : Decimal) : Bool :=
  match ofDecimal false d.digits d.exponent with
  | .finite _ m p _ => m == significand && p == place
  | _ => false

/-- On the grid of decimals with `count` digits, the neighbour of the number
that reads back; the nearer of the two is preferred. -/
def onGrid? (significand place : Nat) (first : Int) (count : Nat) : Option Decimal :=
  let (num, den) := ratio significand place
  let last := first - ((count : Int) - 1)
  let near := Decimal.roundShifted num den (-last)
  let below : Nat :=
    if 0 ≤ -last then num * Nat.pow 10 (-last).toNat / den else num / (den * Nat.pow 10 last.toNat)
  let far := if near = below then below + 1 else below
  if readsBack significand place ⟨near, last⟩ then some ⟨near, last⟩
  else if readsBack significand place ⟨far, last⟩ then some ⟨far, last⟩
  else none

/-- Tries grids of `count`, `count + 1`, … digits. -/
def firstGrid (significand place : Nat) (first : Int) : Nat → Nat → Decimal
  | 0, count =>
    let (num, den) := ratio significand place
    Decimal.significantDigits num den count
  | tries + 1, count =>
    (onGrid? significand place first count).getD
      (firstGrid significand place first tries (count + 1))

/-- The decimal with the fewest digits that reads back as the finite number of
these parts; of several, the nearest to it. Seventeen digits always suffice. -/
def shortest (significand place : Nat) : Decimal :=
  if significand = 0 then ⟨0, 0⟩
  else
    let (num, den) := ratio significand place
    (firstGrid significand place (Decimal.leadingExponent num den) 16 1).trimZeros 20

end Binary64

end Inlay
