import Inlay.Format.Spec

/-!
# Padding and grouping

How a content is brought to its width. A text is padded on one side or both. A
number is made of a sign, a base mark, whole digits, which may be grouped,
and the rest (a point, what follows it, an exponent); if zeros fill the place
after its sign, they are grouped along with its digits.
-/

namespace Inlay.Format

/-- The padding before and after a content of which `missing` characters are
missing. In the middle, the greater half goes after it. -/
def Alignment.split : Alignment → Nat → Nat × Nat
  | .left, missing => (0, missing)
  | .right, missing => (missing, 0)
  | .center, missing => (missing / 2, missing - missing / 2)
  | .afterSign, _ => (0, 0)

/-- A text cut to the precision and padded to the width. -/
def layText (spec : Spec) (cs : List Char) : List Char :=
  let shown := match spec.precision with
    | some n => cs.take n
    | none => cs
  let (before, after) := spec.alignment.split (spec.width.getD 0 - shown.length)
  List.replicate before spec.fill ++ shown ++ List.replicate after spec.fill

/-- The groups of digits, lowest digit first, that a number has when it fills
at least `least` places: groups of `size`, where each but the last takes one
place more for its separator. -/
def groups (size : Nat) : Nat → Int → List Char → List (List Char)
  | 0, _, _ => []
  | steps + 1, least, digits =>
    let length := min size (max (max digits.length least.toNat) 1)
    let group := digits.take length ++ List.replicate (length - digits.length) '0'
    let left := least - length
    if digits.length ≤ length ∧ left ≤ 0 then [group]
    else group :: groups size steps (left - 1) (digits.drop length)

/-- Digits with a separator between groups of `size`, filled up with zeros to
`least` places. -/
def groupDigits (size : Nat) (separator : Char) (least : Int) (digits : List Char) :
    List Char :=
  ([separator].intercalate
    (groups size (digits.length + least.toNat + 1) least digits.reverse)).reverse

/-- A number taken apart. -/
structure NumberParts where
  negative : Bool
  mark : List Char
  whole : List Char
  rest : List Char
  deriving Repr

def signText (rule : Option SignRule) (negative : Bool) : List Char :=
  if negative then ['-']
  else match rule with
    | some .plus => ['+']
    | some .space => [' ']
    | _ => []

/-- Whole digits grouped and filled up. A number without whole digits (an
infinity) is left alone. -/
def layWhole (spec : Spec) (least : Int) (digits : List Char) : List Char :=
  if digits.isEmpty then []
  else match spec.separator with
    | some s =>
      let size := if ['b', 'o', 'x', 'X'].contains spec.presentation then 4 else 3
      groupDigits size s least digits
    | none => List.replicate (least.toNat - digits.length) '0' ++ digits

def layNumber (spec : Spec) (parts : NumberParts) : List Char :=
  let sign := signText spec.sign parts.negative
  let width := spec.width.getD 0
  let fixed := sign.length + parts.mark.length + parts.rest.length
  let least : Int :=
    if spec.fill = '0' ∧ spec.alignment = .afterSign then width - fixed else 0
  let whole := layWhole spec least parts.whole
  let missing := width - (fixed + whole.length)
  let (before, after) := spec.alignment.split missing
  let inside := if spec.alignment = .afterSign then missing else 0
  List.replicate before spec.fill ++ sign ++ parts.mark ++
    List.replicate inside spec.fill ++ whole ++ parts.rest ++ List.replicate after spec.fill

end Inlay.Format
