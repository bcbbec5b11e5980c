import Inlay.Library.Argument
import Inlay.Text.Search
import Inlay.Value.Equality

/-!
# Lists and dictionaries
-/

namespace Inlay

namespace Collections

/-- The number of elements of a list, entries of a dictionary or characters of
a string. -/
def size : Value → Outcome Value
  | .list _ elements => .ok (.integer elements.length)
  | .dictionary _ entries => .ok (.integer entries.length)
  | .string s => .ok (.integer s.length)
  | v => Argument.mismatch "List, Dictionary or String" v

/-- The first element of a list. -/
def head (v : Value) : Outcome Value := do
  match ← Argument.list v with
  | first :: _ => .ok first
  | [] => .error .headOfEmpty

/-- The elements of a list after the first. -/
def tail (v : Value) : Outcome Value :=
  (Argument.list v).map fun elements => .list .template (elements.drop 1)

def keys (v : Value) : Outcome Value :=
  (Argument.dictionary v).map fun entries => .list .template (entries.map Prod.fst)

/-- The values of a dictionary in the order of their keys. -/
def values (v : Value) : Outcome Value :=
  (Argument.dictionary v).map fun entries => .list .template (entries.map Prod.snd)

/-- Whether a list has an element equal to the item, a dictionary has it as a
key, or a string as a part. -/
def contains (container item : Value) : Outcome Value :=
  match container with
  | .list _ elements => .ok (.boolean (elements.any fun e => e.equal item))
  | .dictionary origin entries =>
    match Dictionary.lookup origin entries item with
    | .ok found => .ok (.boolean found.isSome)
    | .error fault => .error (.key fault)
  | .string s =>
    (Argument.string item).map fun part => .boolean (Text.occurs part.toList s.toList)
  | v => Argument.mismatch "List, Dictionary or String" v

/-- The integers from `start` up to below `stop`. -/
def integersFrom (start stop : Int) : List Value :=
  (List.range (stop - start).toNat).map fun (i : Nat) => .integer (start + i)

/-- The integers up to below the last bound, from zero or from the first of two
bounds. An absent second bound counts as not given. -/
def range (arguments : List Value) : Outcome Value := do
  let given := match arguments with
    | [first, .foreign .absent] => [first]
    | given => given
  let bounds ← given.mapM Argument.integer
  let (start, stop) := match bounds with
    | [stop] => (0, stop)
    | start :: stop :: _ => (start, stop)
    | [] => (0, 0)
  if CallFault.rangeLimit < stop - start then .error (.rangeTooLarge (stop - start))
  else .ok (.list .template (integersFrom start stop))

end Collections

end Inlay
