import Inlay.Value.Dictionary

/-!
# Equality

`Value.equal` is the equality that templates see. It is structural and ignores
who built a list or dictionary; numbers are compared exactly, Booleans never
equal numbers, and two functions are equal if they come from the same piece of
source.

`Value.hostEqual` is the equality that a host sees between whole dictionaries.
It also looks at representations and may fail, when a dictionary is compared
with a host's own and one of its keys could not be a key there.
-/

namespace Inlay

namespace Value

/-- Holds of two lists if they are equally long and agree place by place. -/
def pairwise (agree : Value → Value → Bool) : List Value → List Value → Bool
  | [], [] => true
  | v :: xs, w :: ys => agree v w && pairwise agree xs ys
  | _, _ => false

/-- Equality of values that nest at most `bound` deep, on either side. -/
def equalWithin : (bound : Nat) → Value → Value → Bool
  | _, boolean a, boolean b => a == b
  | _, boolean _, _ => false
  | _, _, boolean _ => false
  | bound + 1, list _ xs, list _ ys => pairwise (equalWithin bound) xs ys
  | bound + 1, dictionary _ xs, dictionary p ys =>
    xs.length == ys.length && xs.all fun (key, value) =>
      match Dictionary.lookup p ys key with
      | .ok (some found) => equalWithin bound found value
      | _ => false
  | _, v, w => v.looselyEqual w

/-- The equality of templates. -/
def equal (a b : Value) : Bool := equalWithin a.depth a b

/-- Runs a test on each element until one does not hold or fails. -/
def allOk {α ε : Type} (test : α → Except ε Bool) : List α → Except ε Bool
  | [] => .ok true
  | a :: rest =>
    match test a with
    | .error e => .error e
    | .ok false => .ok false
    | .ok true => allOk test rest

/-- Agreement place by place, by a test that may fail. -/
def pairwiseOk {ε : Type} (agree : Value → Value → Except ε Bool) :
    List Value → List Value → Except ε Bool
  | [], [] => .ok true
  | v :: xs, w :: ys =>
    match agree v w with
    | .error e => .error e
    | .ok false => .ok false
    | .ok true => pairwiseOk agree xs ys
  | _, _ => .ok false

/-- Equality in a host's sense of values that nest at most `bound` deep. -/
def hostEqualWithin : (bound : Nat) → Value → Value → Except KeyFault Bool
  | bound + 1, list o xs, list p ys =>
    if o = p ∧ (o = .template ∨ xs.length = ys.length) then pairwiseOk (hostEqualWithin bound) xs ys
    else .ok false
  | bound + 1, dictionary .template xs, dictionary .template ys =>
    if xs.length = ys.length then
      allOk (fun (key, value) =>
        match Dictionary.found? ys key with
        | none => .ok false
        | some (key', value') =>
          pairwiseOk (hostEqualWithin bound) [key, value] [key', value']) xs
    else .ok false
  | bound + 1, dictionary _ xs, dictionary _ ys =>
    match Dictionary.hostEntries xs, Dictionary.hostEntries ys with
    | .error e, _ => .error e
    | _, .error e => .error e
    | .ok xs', .ok ys' =>
      if xs'.length = ys'.length then
        allOk (fun (key, value) =>
          match ys'.find? fun (k, _) => k.hashEqual key with
          | none => .ok false
          | some (_, value') => hostEqualWithin bound value value') xs'
      else .ok false
  | _, v, w => .ok (v.hashEqual w)

/-- Equality in a host's sense. -/
def hostEqual (a b : Value) : Except KeyFault Bool := hostEqualWithin a.depth a b

end Value

end Inlay
