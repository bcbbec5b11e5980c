import Inlay.Expr
import Inlay.Function

/-!
# Values

What expressions evaluate to: integers, floating-point numbers, strings,
Booleans, lists, dictionaries and two kinds of functions. Lists and
dictionaries come in two representations, those that templates build and those
that a host hands in; they behave alike in templates but are told apart where
a host's own equality of keys shows. A host may also bind values that are none
of these.

A closure holds the frames of the scope it was created in, innermost first.
-/

namespace Inlay

/-- Who built a list or dictionary. -/
inductive Origin where
  | template
  | host
  deriving DecidableEq, Repr

/-- Values of a host that templates have no use for: the absent value, and a
set. -/
inductive Foreign where
  | absent
  | set
  deriving DecidableEq, Repr

/-- A value. -/
inductive Value where
  | integer (n : Int)
  | float (x : Binary64)
  | string (s : String)
  | boolean (b : Bool)
  | list (origin : Origin) (elements : List Value)
  | dictionary (origin : Origin) (entries : List (Value × Value))
  | closure (parameters : List String) (body : Expr) (frames : List (List (String × Value)))
  | builtin (f : Function)
  | foreign (f : Foreign)
  deriving Repr, Inhabited

/-- The bindings of one level of a scope. -/
abbrev Frame := List (String × Value)

namespace Value

def typeName : Value → String
  | integer _ => "Integer"
  | float _ => "Float"
  | string _ => "String"
  | boolean _ => "Boolean"
  | list _ _ => "List"
  | dictionary _ _ => "Dictionary"
  | closure _ _ _ => "Closure"
  | builtin _ => "BuiltinFunction"
  | foreign .absent => "NoneType"
  | foreign .set => "set"

/-- The name of a value's representation, which also tells lists and
dictionaries of templates and hosts apart. -/
def representationName : Value → String
  | list .host _ => "list"
  | list .template _ => "tuple"
  | dictionary .host _ => "dict"
  | v => v.typeName

def isInteger : Value → Bool
  | integer _ => true
  | _ => false

def isFloat : Value → Bool
  | float _ => true
  | _ => false

def isNumber : Value → Bool
  | integer _ => true
  | float _ => true
  | _ => false

def isList : Value → Bool
  | list _ _ => true
  | _ => false

def isDictionary : Value → Bool
  | dictionary _ _ => true
  | _ => false

def isCallable : Value → Bool
  | closure _ _ _ => true
  | builtin _ => true
  | _ => false

mutual

/-- Whether a value is one that templates know, all the way down. -/
def isKnown : Value → Bool
  | list _ elements => allKnown elements
  | dictionary _ entries => allEntriesKnown entries
  | foreign _ => false
  | _ => true

def allKnown : List Value → Bool
  | [] => true
  | v :: rest => isKnown v && allKnown rest

def allEntriesKnown : List (Value × Value) → Bool
  | [] => true
  | (k, v) :: rest => isKnown k && isKnown v && allEntriesKnown rest

end

mutual

/-- How deep a value nests: lists, dictionaries, and the bodies of closures. -/
def depth : Value → Nat
  | list _ elements => depthAll elements + 1
  | dictionary _ entries => depthEntries entries + 1
  | closure _ body _ => body.depth + 1
  | _ => 0

def depthAll : List Value → Nat
  | [] => 0
  | v :: rest => max (depth v) (depthAll rest)

def depthEntries : List (Value × Value) → Nat
  | [] => 0
  | (k, v) :: rest => max (max (depth k) (depth v)) (depthEntries rest)

end

end Value

end Inlay
