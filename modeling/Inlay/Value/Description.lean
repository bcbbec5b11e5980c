import Inlay.Expr.Description
import Inlay.Value.Display

/-!
# Descriptions of values

A value in full, as error messages show a key: strings in quotes, Booleans
capitalised, functions with their source tree or their arity. The two
representations of lists and dictionaries look different.
-/

namespace Inlay

def Function.fullText (f : Function) : String :=
  nodeText "BuiltinFunction"
    [("name", Text.quoted f.name), ("min_args", integerText f.minArgs),
      ("max_args", match f.maxArgs with
        | none => "None"
        | some most => integerText most),
      ("description", Text.quoted f.description)]

namespace Value

mutual

def fullText : Value → String
  | integer n => integerText n
  | float x => x.text
  | string s => Text.quoted s
  | boolean b => if b then "True" else "False"
  | list .template elements => tupleText (fullTexts elements)
  | list .host elements => "[" ++ joinWith ", " (fullTexts elements) ++ "]"
  | dictionary .template entries =>
    "Dictionary(\x7b" ++ joinWith ", " (entryFullTexts entries) ++ "\x7d)"
  | dictionary .host entries => "\x7b" ++ joinWith ", " (entryFullTexts entries) ++ "\x7d"
  | closure parameters body _ =>
    nodeText "Closure"
      [("parameters", tupleText (parameters.map Text.quoted)),
        ("body", Expr.blockText body.location body.description)]
  | builtin f => f.fullText
  | foreign .absent => "None"
  | foreign .set => "\x7b1\x7d"

def fullTexts : List Value → List String
  | [] => []
  | v :: rest => fullText v :: fullTexts rest

def entryFullTexts : List (Value × Value) → List String
  | [] => []
  | (k, v) :: rest => (fullText k ++ ": " ++ fullText v) :: entryFullTexts rest

end

end Value

end Inlay
