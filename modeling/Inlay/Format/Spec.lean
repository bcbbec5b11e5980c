import Inlay.Format.Fault
import Inlay.Text.Digit

/-!
# Specifications of fields

What may stand after the colon of a field, in this order and all of it
optional: a fill character with an alignment, a sign rule, `z`, `#`, `0`, a
width, a digit separator, a point with a precision, and one presentation
character.
-/

namespace Inlay.Format

/-- Where padding goes: after the content, before it, on both sides, or
between a number's sign and its digits. -/
inductive Alignment where
  | left
  | right
  | center
  | afterSign
  deriving DecidableEq, Repr

/-- What is written in place of the sign of a number that is not negative. -/
inductive SignRule where
  | plus
  | minus
  | space
  deriving DecidableEq, Repr

/-- What a specification is applied to. -/
inductive Target where
  | text
  | integer
  | float
  deriving DecidableEq, Repr

namespace Target

def name : Target → String
  | text => "str"
  | integer => "int"
  | float => "float"

/-- Text stands left and numbers right, if nothing else is said. -/
def alignment : Target → Alignment
  | text => .left
  | integer => .right
  | float => .right

/-- The presentation that applies when none is given. For floating-point
numbers it has no letter and is written NUL. -/
def presentation : Target → Char
  | text => 's'
  | integer => 'd'
  | float => '\x00'

end Target

/-- A specification. -/
structure Spec where
  fill : Char
  alignment : Alignment
  sign : Option SignRule
  coerceZero : Bool
  alternate : Bool
  width : Option Nat
  separator : Option Char
  precision : Option Nat
  presentation : Char
  deriving DecidableEq, Repr

namespace Spec

/-- The greatest width, precision or field number that can be written. -/
def countLimit : Nat := 0x7FFFFFFFFFFFFFFF

/-- The number that decimal digits spell, if it is within the limit. -/
def readCount (digits : List Char) : Except Fault Nat :=
  digits.foldlM (fun n c =>
    let d := (Text.decimalValue? c).getD 0
    if (countLimit - d) / 10 < n then .error .tooManyDigits else .ok (10 * n + d)) 0

/-- Splits a number off a text; none if it starts with no digit. -/
def splitCount (cs : List Char) : Except Fault (Option Nat × List Char) := do
  let digits := cs.takeWhile Text.isDecimalDigit
  if digits.isEmpty then return (none, cs)
  else return (some (← readCount digits), cs.drop digits.length)

/-- The alignment that a character stands for. -/
def alignmentOf? : Char → Option Alignment
  | '<' => some .left
  | '>' => some .right
  | '^' => some .center
  | '=' => some .afterSign
  | _ => none

/-- Splits off a fill character, if there is one, and an alignment. A character
before an alignment is the fill character, whatever it is. -/
def splitAlignment (cs : List Char) : Option Char × Option Alignment × List Char :=
  match cs with
  | [] => (none, none, [])
  | [c] => (none, alignmentOf? c, if (alignmentOf? c).isSome then [] else [c])
  | c :: d :: rest =>
    match alignmentOf? d with
    | some a => (some c, some a, rest)
    | none =>
      match alignmentOf? c with
      | some a => (none, some a, d :: rest)
      | none => (none, none, c :: d :: rest)

def splitSign (cs : List Char) : Option SignRule × List Char :=
  match cs with
  | '+' :: rest => (some .plus, rest)
  | '-' :: rest => (some .minus, rest)
  | ' ' :: rest => (some .space, rest)
  | _ => (none, cs)

/-- Whether a text starts with a character, and what follows it. -/
def splitFlag (flag : Char) (cs : List Char) : Bool × List Char :=
  match cs with
  | c :: rest => if c = flag then (true, rest) else (false, cs)
  | [] => (false, [])

/-- Splits off a digit separator; there may be only one. -/
def splitSeparator (cs : List Char) : Except Fault (Option Char × List Char) :=
  match cs with
  | ',' :: '_' :: _ => .error .bothSeparators
  | ',' :: rest => .ok (some ',', rest)
  | '_' :: ',' :: _ => .error .bothSeparators
  | '_' :: rest => .ok (some '_', rest)
  | _ => .ok (none, cs)

/-- Splits off a point and the precision that has to follow it. -/
def splitPrecision (cs : List Char) : Except Fault (Option Nat × List Char) :=
  match cs with
  | '.' :: rest => do
    match ← splitCount rest with
    | (some n, rest) => return (some n, rest)
    | (none, _) => throw .precisionMissing
  | _ => return (none, cs)

/-- The presentations that separate digits: decimal ones with either
separator, those in other bases with an underscore only. -/
def separates (separator presentation : Char) : Bool :=
  ['d', 'e', 'f', 'g', 'E', 'G', '%', 'F', '\x00'].contains presentation ||
    (separator == '_' && ['b', 'o', 'x', 'X'].contains presentation)

/-- The greatest width of which memory is taken to hold a text. -/
def widthLimit : Nat := 0x1000000000

def read (target : Target) (cs : List Char) : Except Fault Spec := do
  let (fill, alignment, rest) := splitAlignment cs
  let (sign, rest) := splitSign rest
  let (coerceZero, rest) := splitFlag 'z' rest
  let (alternate, rest) := splitFlag '#' rest
  let (zero, rest) := if fill.isNone then splitFlag '0' rest else (false, rest)
  let usual := if zero && target.alignment = .right then .afterSign else target.alignment
  let (width, rest) ← splitCount rest
  let (separator, rest) ← splitSeparator rest
  let (precision, rest) ← splitPrecision rest
  let presentation ← match rest with
    | [] => pure target.presentation
    | [c] => pure c
    | _ => throw (.malformed cs target.name)
  match separator with
  | some s =>
    if !separates s presentation then throw (.separatorRefused s presentation)
  | none => pure ()
  if widthLimit < width.getD 0 then throw .outOfMemory
  return { fill := fill.getD (if zero then '0' else ' ')
           alignment := alignment.getD usual
           sign, coerceZero, alternate, width, separator, precision, presentation }

end Spec

end Inlay.Format
