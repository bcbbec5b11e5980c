import Inlay.Library.Arithmetic
import Inlay.Library.Collections
import Inlay.Library.Comparison
import Inlay.Library.Conversion
import Inlay.Library.Strings
import Inlay.Library.Times
import Inlay.Registry

/-!
# The standard library

The thirty-five functions that a template may call unless its host says
otherwise: the registry that holds them, and what each one computes.
-/

namespace Inlay

namespace Library

/-- A function of the library that takes from `least` to `most` arguments. -/
def entry (name : String) (routine : StandardRoutine) (least : Int) (most : Option Int)
    (description : String) : Function :=
  ⟨name, .standard routine, least, most, description⟩

def functions : List Function :=
  [entry "eq" .eq 2 (some 2) "True if both values are equal.",
   entry "ne" .ne 2 (some 2) "True if the values differ.",
   entry "lt" .lt 2 (some 2) "True if left < right (numbers or strings).",
   entry "le" .le 2 (some 2) "True if left <= right (numbers or strings).",
   entry "gt" .gt 2 (some 2) "True if left > right (numbers or strings).",
   entry "ge" .ge 2 (some 2) "True if left >= right (numbers or strings).",
   entry "not" .not 1 (some 1) "Boolean negation.",
   entry "and" .and 1 none "True if every argument is true. All arguments are evaluated.",
   entry "or" .or 1 none "True if any argument is true. All arguments are evaluated.",
   entry "add" .add 2 none "Sum of the arguments.",
   entry "sub" .sub 2 (some 2) "left - right.",
   entry "mul" .mul 2 none "Product of the arguments.",
   entry "div" .div 2 (some 2) "left / right; Integer division truncates toward zero.",
   entry "mod" .mod 2 (some 2) "Remainder of left / right, with the sign of left.",
   entry "concat" .concat 0 none "Concatenate the text of every argument.",
   entry "upper" .upper 1 (some 1) "Upper-case a string.",
   entry "lower" .lower 1 (some 1) "Lower-case a string.",
   entry "trim" .trim 1 (some 1) "Strip leading and trailing whitespace.",
   entry "replace" .replace 3 (some 3) "Replace every occurrence of old with new.",
   entry "match" .matches 2 (some 2)
     "True if the whole string matches the regular expression.",
   entry "split" .split 2 (some 2) "Split a string on a literal separator.",
   entry "join" .join 2 (some 2) "Join the text of each list element with a separator.",
   entry "format" .format 1 none
     "Fill \x60\x60\x7b\x7d\x60\x60 or \x60\x60\x7bN\x7d\x60\x60 fields, each with an optional format spec.",
   entry "size" .size 1 (some 1) "Length of a List, Dictionary or String.",
   entry "head" .head 1 (some 1) "First element of a non-empty List.",
   entry "tail" .tail 1 (some 1) "All elements of a List except the first.",
   entry "keys" .keys 1 (some 1) "Keys of a Dictionary, in insertion order.",
   entry "values" .values 1 (some 1) "Values of a Dictionary, in insertion order.",
   entry "contains" .contains 2 (some 2)
     "List membership, Dictionary key presence or substring test.",
   entry "range" .range 1 (some 2)
     "range(stop) or range(start, stop) as a List of Integers.",
   entry "int" .int 1 (some 1) "Convert a String or Float to an Integer (floats truncate).",
   entry "float" .float 1 (some 1) "Convert a String or Integer to a Float.",
   entry "str" .str 1 (some 1) "Text form of any value, as it would render.",
   entry "now" .now 0 (some 0) "Current time in epoch milliseconds.",
   entry "formatTime" .formatTime 2 (some 3)
     "Format epoch milliseconds with a strftime pattern in a time zone."]

def registry : Registry := ⟨functions⟩

end Library

/-- What a call of the library may look at besides its arguments: the time, in
milliseconds of the epoch, and a number that no other call has. -/
structure Surroundings where
  clock : Int
  call : Nat
  deriving Repr, Inhabited

/-- What a routine of the library computes from as many arguments as its
function takes. -/
def StandardRoutine.run (s : Surroundings) : StandardRoutine → List Value → Outcome Value
  | .eq, [a, b] => Comparison.eq a b
  | .ne, [a, b] => Comparison.ne a b
  | .lt, [a, b] => Comparison.lt a b
  | .le, [a, b] => Comparison.le a b
  | .gt, [a, b] => Comparison.gt a b
  | .ge, [a, b] => Comparison.ge a b
  | .not, [v] => Logic.not v
  | .and, vs => Logic.and vs
  | .or, vs => Logic.or vs
  | .add, vs => Arithmetic.add s.call vs
  | .sub, [a, b] => Arithmetic.sub s.call a b
  | .mul, vs => Arithmetic.mul s.call vs
  | .div, [a, b] => Arithmetic.div s.call a b
  | .mod, [a, b] => Arithmetic.mod s.call a b
  | .concat, vs => Strings.concat vs
  | .upper, [v] => Strings.upper v
  | .lower, [v] => Strings.lower v
  | .trim, [v] => Strings.trim v
  | .replace, [v, old, new] => Strings.replace v old new
  | .matches, [v, pattern] => Strings.matchesPattern v pattern
  | .split, [v, separator] => Strings.split v separator
  | .join, [vs, separator] => Strings.join vs separator
  | .format, pattern :: vs => Strings.format pattern vs
  | .size, [v] => Collections.size v
  | .head, [v] => Collections.head v
  | .tail, [v] => Collections.tail v
  | .keys, [v] => Collections.keys v
  | .values, [v] => Collections.values v
  | .contains, [container, item] => Collections.contains container item
  | .range, vs => Collections.range vs
  | .int, [v] => Conversion.toInteger v
  | .float, [v] => Conversion.toFloat s.call v
  | .str, [v] => Conversion.toString v
  | .formatTime, [millis, pattern] => Times.format millis pattern Times.defaultZone
  | .formatTime, [millis, pattern, zone] => Times.format millis pattern zone
  | .now, [] => .ok (.integer s.clock)
  | _, vs => .error (.expected "other arguments" (toString vs.length))

end Inlay
