import Inlay.Number.Decimal

/-!
# How numbers are written

A floating-point number is written with the fewest digits that read back. From
`0.0001` up to below `10 ^ 16` it is positional and has at least one digit
after the point; otherwise it has an exponent of at least two digits and a
sign (`1e-05`, `1.5e+16`).
-/

namespace Inlay

namespace Decimal

/-- Digits with a point after the first `before` of them; zeros fill the gap
when the point stands outside. A number without digits after the point gets
`tail` instead. -/
def positional (digits : List Char) (before : Int) (tail : List Char) : List Char :=
  if before ≤ 0 then
    ['0', '.'] ++ List.replicate (-before).toNat '0' ++ digits
  else
    let count := before.toNat
    if digits.length ≤ count then
      digits ++ List.replicate (count - digits.length) '0' ++ tail
    else digits.take count ++ ['.'] ++ digits.drop count

/-- An exponent with its mark and sign, in at least two digits. -/
def exponentText (mark : Char) (exponent : Int) : List Char :=
  let digits := digitsOf exponent.natAbs
  [mark, if exponent < 0 then '-' else '+'] ++
    List.replicate (2 - digits.length) '0' ++ digits

/-- Digits with a point after the first and an exponent. -/
def scientific (mark : Char) (digits : List Char) (exponent : Int) : List Char :=
  match digits with
  | [] => exponentText mark exponent
  | [d] => d :: exponentText mark exponent
  | d :: more => d :: '.' :: more ++ exponentText mark exponent

end Decimal

def integerText (n : Int) : String :=
  let digits := Decimal.digitsOf n.natAbs
  String.ofList (if n < 0 then '-' :: digits else digits)

namespace Binary64

/-- The size of a finite number in shortest form. -/
def magnitudeText (significand place : Nat) : List Char :=
  let d := shortest significand place
  let digits := Decimal.digitsOf d.digits
  let before : Int := digits.length + d.exponent
  if -4 < before ∧ before ≤ 16 then Decimal.positional digits before ['.', '0']
  else Decimal.scientific 'e' digits (before - 1)

def text : Binary64 → String
  | .nan _ => "nan"
  | .infinite negative => if negative then "-inf" else "inf"
  | .finite negative significand place _ =>
    let size := magnitudeText significand place
    String.ofList (if negative then '-' :: size else size)

end Binary64

end Inlay
