import Inlay.Format
import Inlay.Library.Argument
import Inlay.Regex.Machine
import Inlay.Regex.Reader
import Inlay.Text.Blank
import Inlay.Text.Case
import Inlay.Text.Search
import Inlay.Value.Display

/-!
# Strings
-/

namespace Inlay

namespace Strings

/-- The texts of all arguments, one after another. -/
def concat (arguments : List Value) : Outcome Value :=
  .ok (.string (String.join (Value.texts arguments)))

def upper (v : Value) : Outcome Value :=
  (Argument.string v).map fun s => .string (Text.upper s)

def lower (v : Value) : Outcome Value :=
  (Argument.string v).map fun s => .string (Text.lower s)

/-- A string without the blanks at its ends. -/
def trim (v : Value) : Outcome Value :=
  (Argument.string v).map fun s => .string (String.ofList (Text.trim s.toList))

/-- A string with every occurrence of another replaced. -/
def replace (value old new : Value) : Outcome Value := do
  let text ← Argument.string value
  let target ← Argument.string old
  let replacement ← Argument.string new
  return .string (String.ofList
    (Text.replaceAll target.toList replacement.toList text.toList))

/-- Whether a regular expression matches the whole of a string. -/
def matchesPattern (value pattern : Value) : Outcome Value := do
  let text ← Argument.string value
  let source ← Argument.string pattern
  match Regex.Expression.read source with
  | .ok e => return .boolean (e.matchesWhole text)
  | .error fault => throw (.regex fault source)

/-- The pieces of a string between the occurrences of a separator. -/
def split (value separator : Value) : Outcome Value := do
  let text ← Argument.string value
  let sep ← Argument.string separator
  if sep.isEmpty then .error .emptySeparator
  else
    let parts := Text.pieces sep.toList text.toList
    return .list .template (parts.map fun piece => .string (String.ofList piece))

/-- The texts of a list's elements with a separator between each two. -/
def join (values separator : Value) : Outcome Value := do
  let items ← Argument.list values
  let sep ← Argument.string separator
  return .string (joinWith sep (Value.texts items))

/-- A value as an argument of a format text: numbers as numbers, all else as
its text. -/
def formatArgument : Value → Format.Argument
  | .integer n => .integer n
  | .float x => .float x
  | v => .text v.text

/-- A format text with its fields filled. -/
def format (pattern : Value) (values : List Value) : Outcome Value := do
  let text ← Argument.string pattern
  match Format.fill text (values.map formatArgument) with
  | .ok s => return .string s
  | .error fault => throw (.format fault)

end Strings

end Inlay
