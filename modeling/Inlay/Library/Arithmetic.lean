import Inlay.Library.Argument

/-!
# Arithmetic

Integers are computed exactly and the result must fit into 64 bits; what is
passed through on the way may be larger. Once a floating-point number is met,
the rest is computed in floating point, and an integer that is too large for
it is a fault. Integer division and remainder go toward zero.
-/

namespace Inlay

/-- A number: what arithmetic is done on. -/
inductive Number where
  | integer (n : Int)
  | float (x : Binary64)
  deriving DecidableEq, Repr

namespace Number

def toValue : Number → Value
  | integer n => .integer n
  | float x => .float x

def ofArgument : Value → Outcome Number
  | .integer n => .ok (integer n)
  | .float x => .ok (float x)
  | v => Argument.mismatch "Integer or Float" v

/-- An integer as a floating-point number, if it is not too large. -/
def integerToFloat (n : Int) : Outcome Binary64 :=
  let x := Binary64.ofInt n
  if x.isFinite then .ok x else .error .integerTooLarge

def toFloat : Number → Outcome Binary64
  | integer n => integerToFloat n
  | float x => .ok x

def isZero : Number → Bool
  | integer n => n == 0
  | float x => x.isZero

def least : Int := -0x8000000000000000

/-- The greatest integer of the language. -/
def greatest : Int := 0x7FFFFFFFFFFFFFFF

/-- An integer that fits into 64 bits. -/
def inRange (n : Int) : Bool := least ≤ n && n ≤ greatest

/-- An integer result, which must fit into 64 bits. -/
def bounded (n : Int) : Outcome Int :=
  if inRange n then .ok n else .error .integerOverflow

/-- A result, whose integer must fit into 64 bits. -/
def result : Number → Outcome Value
  | integer n => (bounded n).map Value.integer
  | float x => .ok (.float x)

/-- One operation on integers or, when one operand is not an integer, on
floating-point numbers. -/
def combine (onIntegers : Int → Int → Int) (onFloats : Binary64 → Binary64 → Binary64) :
    Number → Number → Outcome Number
  | integer a, integer b => .ok (integer (onIntegers a b))
  | a, b => do
    let x ← a.toFloat
    let y ← b.toFloat
    return float (onFloats x y)

end Number

namespace Arithmetic

def numbers (arguments : List Value) : Outcome (List Number) :=
  arguments.mapM Number.ofArgument

/-- The sum of the arguments, from left to right. -/
def add (payload : Nat) (arguments : List Value) : Outcome Value := do
  let xs ← numbers arguments
  let sum ← xs.foldlM (Number.combine (· + ·) (Binary64.add payload)) (.integer 0)
  sum.result

/-- The product of the arguments, from left to right. -/
def mul (payload : Nat) (arguments : List Value) : Outcome Value := do
  let xs ← numbers arguments
  let product ← xs.foldlM (Number.combine (· * ·) (Binary64.mul payload)) (.integer 1)
  product.result

/-- The difference of two arguments. -/
def sub (payload : Nat) (left right : Value) : Outcome Value := do
  let a ← Number.ofArgument left
  let b ← Number.ofArgument right
  let difference ← Number.combine (· - ·) (Binary64.sub payload) a b
  difference.result

/-- The quotient of two integers by that of their sizes: it is negative if just
one of them is. -/
def quotient (n d : Int) : Int :=
  let size := n.natAbs / d.natAbs
  if decide (n < 0) = decide (d < 0) then size else -size

/-- What is left of an integer by what is left of its size, with its sign. -/
def remainder (n d : Int) : Int :=
  let size := n.natAbs % d.natAbs
  if 0 ≤ n then size else -size

/-- The quotient of two arguments; that of integers is rounded toward zero. -/
def div (payload : Nat) (left right : Value) : Outcome Value := do
  let a ← Number.ofArgument left
  let b ← Number.ofArgument right
  match a, b with
  | .integer n, .integer d =>
    if d = 0 then .error .integerDivisionByZero
    else (Number.bounded (quotient n d)).map Value.integer
  | a, b =>
    if b.isZero then .error .floatDivisionByZero
    else do
      let x ← a.toFloat
      let y ← b.toFloat
      return .float (x.div payload y)

/-- What is left of the first argument after division by the second, with the
sign of the first. -/
def mod (payload : Nat) (left right : Value) : Outcome Value := do
  let a ← Number.ofArgument left
  let b ← Number.ofArgument right
  if b.isZero then .error .moduloByZero
  else match a, b with
    | .integer n, .integer d => .ok (.integer (remainder n d))
    | a, b => do
      let x ← a.toFloat
      let y ← b.toFloat
      match x.remainder? payload y with
      | some r => .ok (.float r)
      | none => .error .mathDomain

end Arithmetic

end Inlay
