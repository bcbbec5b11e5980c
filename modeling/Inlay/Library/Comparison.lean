import Inlay.Library.Argument
import Inlay.Value.Equality

/-!
# Comparison and logic

Numbers are ordered by their exact values, strings by code points; nothing
else has an order. A comparison with a not-a-number never holds.
-/

namespace Inlay

namespace Comparison

/-- Two values that can be ordered: the places of two numbers on the line (none
for a not-a-number), or two strings. -/
inductive Ordered where
  | places (left right : Option Binary64.Position)
  | strings (left right : String)

def place? : Value → Option (Option Binary64.Position)
  | .integer n => some (some (.ofInt n))
  | .float x => some x.position?
  | _ => none

/-- Two values as things that can be ordered. -/
def ordered (left right : Value) : Outcome Ordered :=
  match left, right with
  | .string a, .string b => .ok (.strings a b)
  | left, right =>
    match place? left, place? right with
    | some a, some b => .ok (.places a b)
    | _, _ => .error (.notComparable left.typeName right.typeName)

/-- Whether the left one is below the right one. -/
def Ordered.lt : Ordered → Bool
  | .places (some a) (some b) => a.lt b
  | .places _ _ => false
  | .strings a b => decide (a < b)

/-- Whether the two are equal. -/
def Ordered.eq : Ordered → Bool
  | .places (some a) (some b) => a == b
  | .places _ _ => false
  | .strings a b => a == b

def Ordered.swap : Ordered → Ordered
  | .places a b => .places b a
  | .strings a b => .strings b a

def lt (left right : Value) : Outcome Value :=
  (ordered left right).map fun o => .boolean o.lt

def le (left right : Value) : Outcome Value :=
  (ordered left right).map fun o => .boolean (o.lt || o.eq)

def gt (left right : Value) : Outcome Value :=
  (ordered left right).map fun o => .boolean o.swap.lt

def ge (left right : Value) : Outcome Value :=
  (ordered left right).map fun o => .boolean (o.swap.lt || o.eq)

def eq (left right : Value) : Outcome Value := .ok (.boolean (left.equal right))

def ne (left right : Value) : Outcome Value := .ok (.boolean (!left.equal right))

end Comparison

namespace Logic

def not (v : Value) : Outcome Value := (Argument.boolean v).map fun b => .boolean !b

/-- Whether all arguments are true; each must be a Boolean. -/
def and (arguments : List Value) : Outcome Value :=
  (arguments.mapM Argument.boolean).map fun bs => .boolean (bs.all id)

/-- Whether some argument is true; each must be a Boolean. -/
def or (arguments : List Value) : Outcome Value :=
  (arguments.mapM Argument.boolean).map fun bs => .boolean (bs.any id)

end Logic

end Inlay
