import Inlay.Value

/-!
# Keys

A dictionary tells its keys apart by type and value: the integer `1`, the
number `1.0` and `true` are three keys. Lists are keys element by element,
whoever built them. Dictionaries cannot be keys, nor can lists that hold one.

Besides this sameness of keys there is the coarser equality by which a host's
own dictionaries find theirs (`hashEqual`): there `1`, `1.0` and `true` are
one key.
-/

namespace Inlay

/-- Why a value cannot be a key. -/
inductive KeyFault where
  | dictionary
  | unhashable (representation : String)
  deriving DecidableEq, Repr

namespace KeyFault

def text : KeyFault → String
  | dictionary => "Dictionary value cannot be a dictionary key"
  | unhashable representation => "unhashable type: '" ++ representation ++ "'"

end KeyFault

namespace Value

mutual

/-- What keeps a value from being a key, if anything does; in a list the first
such element counts. -/
def keyFault? : Value → Option KeyFault
  | list _ elements => firstKeyFault? elements
  | dictionary _ _ => some .dictionary
  | foreign .set => some (.unhashable "set")
  | _ => none

def firstKeyFault? : List Value → Option KeyFault
  | [] => none
  | v :: rest =>
    match keyFault? v with
    | some fault => some fault
    | none => firstKeyFault? rest

end

mutual

/-- Whether two values are the same key. -/
def sameKey : Value → Value → Bool
  | integer a, integer b => a == b
  | float x, float y => x.same y
  | string a, string b => a == b
  | boolean a, boolean b => a == b
  | list _ xs, list _ ys => sameKeys xs ys
  | closure ps a _, closure qs b _ => ps == qs && a.same b
  | builtin f, builtin g => f == g
  | foreign f, foreign g => f == g
  | _, _ => false

def sameKeys : List Value → List Value → Bool
  | [], [] => true
  | v :: xs, w :: ys => sameKey v w && sameKeys xs ys
  | _, _ => false

end

/-- An integer and a floating-point number with the same exact value. -/
def integerEqualsFloat (n : Int) (x : Binary64) : Bool :=
  x.position? == some (Binary64.Position.ofInt n)

def booleanNumber (b : Bool) : Int := if b then 1 else 0

mutual

/-- The equality by which a host's dictionaries tell keys apart: numbers and
Booleans are compared by their value alone, and only lists of one
representation are ever equal. A not-a-number equals itself. -/
def hashEqual : Value → Value → Bool
  | integer a, integer b => a == b
  | integer a, float y => integerEqualsFloat a y
  | integer a, boolean c => a == booleanNumber c
  | float x, integer b => integerEqualsFloat b x
  | float x, float y => x.same y
  | float x, boolean c => integerEqualsFloat (booleanNumber c) x
  | boolean c, integer b => b == booleanNumber c
  | boolean c, float y => integerEqualsFloat (booleanNumber c) y
  | boolean c, boolean d => c == d
  | string a, string b => a == b
  | list o xs, list p ys => o == p && hashEqualAll xs ys
  | closure ps a _, closure qs b _ => ps == qs && a.same b
  | builtin f, builtin g => f == g
  | foreign f, foreign g => f == g
  | _, _ => false

/-- Pointwise equality of keys in a host's sense. -/
def hashEqualAll : List Value → List Value → Bool
  | [], [] => true
  | v :: xs, w :: ys => hashEqual v w && hashEqualAll xs ys
  | _, _ => false

end

/-- Equality in a host's sense outside of any container, where a not-a-number
differs even from itself. -/
def looselyEqual : Value → Value → Bool
  | float x, float y => x.equals y
  | v, w => v.hashEqual w

mutual

/-- What keeps a value from being a key of a host's dictionary: there lists
that a host built are no keys either. -/
def hashFault? : Value → Option KeyFault
  | list .host _ => some (.unhashable "list")
  | list .template elements => firstHashFault? elements
  | dictionary .host _ => some (.unhashable "dict")
  | dictionary .template _ => some (.unhashable "Dictionary")
  | foreign .set => some (.unhashable "set")
  | _ => none

def firstHashFault? : List Value → Option KeyFault
  | [] => none
  | v :: rest =>
    match hashFault? v with
    | some fault => some fault
    | none => firstHashFault? rest

end

end Value

end Inlay
