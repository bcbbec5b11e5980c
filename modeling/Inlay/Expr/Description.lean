import Inlay.Expr
import Inlay.Number.Display
import Inlay.Text.Quoted

/-!
# Descriptions of expressions

An expression in full, place and parts of every node by name, as it is shown
where a function stands for a key that was not found.
-/

namespace Inlay

def nodeText (name : String) (parts : List (String × String)) : String :=
  name ++ "(" ++ ", ".intercalate (parts.map fun (key, value) => key ++ "=" ++ value) ++ ")"

/-- A sequence in parentheses; a comma follows a lone element. -/
def tupleText : List String → String
  | [] => "()"
  | [one] => "(" ++ one ++ ",)"
  | many => "(" ++ ", ".intercalate many ++ ")"

/-- A place in full. -/
def Location.description (l : Location) : String :=
  nodeText "Location" [("line", toString l.line), ("column", toString l.column)]

namespace Expr

/-- The block that a function's body is, given the body's place and text. -/
def blockText (l : Location) (body : String) : String :=
  nodeText "Block" [("location", l.description), ("children", tupleText [body])]

mutual

/-- An expression in full. -/
def description : Expr → String
  | .string l value =>
    nodeText "StringLiteral" [("location", l.description), ("value", Text.quoted value)]
  | .integer l value =>
    nodeText "LongLiteral" [("location", l.description), ("value", integerText value)]
  | .float l value =>
    nodeText "DoubleLiteral" [("location", l.description), ("value", value.text)]
  | .name l word =>
    nodeText "Identifier" [("location", l.description), ("name", Text.quoted word)]
  | .member l base word =>
    nodeText "MemberAccess"
      [("location", l.description), ("base", description base), ("member", Text.quoted word)]
  | .index l base key =>
    nodeText "CollectionAccess"
      [("location", l.description), ("base", description base), ("index", description key)]
  | .call l callee arguments =>
    nodeText "FunctionCall"
      [("location", l.description), ("function", description callee),
        ("arguments", tupleText (descriptions arguments))]
  | .choice l condition yes no =>
    nodeText "TernaryIf"
      [("location", l.description), ("condition", description condition),
        ("then_value", description yes), ("else_value", description no)]
  | .list l elements =>
    nodeText "ListLiteral"
      [("location", l.description), ("elements", tupleText (descriptions elements))]
  | .dictionary l entries =>
    nodeText "DictionaryLiteral"
      [("location", l.description), ("entries", tupleText (entryDescriptions entries))]
  | .function l parameters body =>
    nodeText "FunctionLiteral"
      [("location", l.description), ("parameters", tupleText (parameters.map Text.quoted)),
        ("body", blockText body.location (description body))]

def descriptions : List Expr → List String
  | [] => []
  | e :: rest => description e :: descriptions rest

def entryDescriptions : List (Expr × Expr) → List String
  | [] => []
  | (k, v) :: rest => tupleText [description k, description v] :: entryDescriptions rest

end

end Expr

end Inlay
