import Inlay.Number.Display
import Inlay.Value

/-!
# The text of values

What a value renders as: strings verbatim, Booleans as `true` and `false`,
numbers in shortest form, lists as `[a, b]` and dictionaries as
`{key: value}`, both without quotes around the strings inside.
-/

namespace Inlay

/-- Texts with a separator between each two. -/
def joinWith (separator : String) (parts : List String) : String :=
  separator.intercalate parts

namespace Value

mutual

def text : Value → String
  | integer n => integerText n
  | float x => x.text
  | string s => s
  | boolean b => if b then "true" else "false"
  | list _ elements => "[" ++ joinWith ", " (texts elements) ++ "]"
  | dictionary _ entries => "\x7b" ++ joinWith ", " (entryTexts entries) ++ "\x7d"
  | closure parameters _ _ => "<fn(" ++ joinWith ", " parameters ++ ")>"
  | builtin f => "<builtin " ++ f.name ++ ">"
  | foreign .absent => "None"
  | foreign .set => "\x7b1\x7d"

def texts : List Value → List String
  | [] => []
  | v :: rest => text v :: texts rest

def entryTexts : List (Value × Value) → List String
  | [] => []
  | (k, v) :: rest => (text k ++ ": " ++ text v) :: entryTexts rest

end

end Value

end Inlay
