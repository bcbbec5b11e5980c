import Inlay.Location
import Inlay.Number.Binary64

/-!
# Expressions and templates

The tree of a template. Every node carries the place of the token that brought
it in: the dot of a member access, the bracket of an index, the parenthesis of
a call, the keyword or first sign of the rest. Plain text is a string literal
among the template's children.
-/

namespace Inlay

/-- An expression. The body of a function is one expression. -/
inductive Expr where
  | string (location : Location) (value : String)
  | integer (location : Location) (value : Int)
  | float (location : Location) (value : Binary64)
  | name (location : Location) (name : String)
  | member (location : Location) (base : Expr) (name : String)
  | index (location : Location) (base : Expr) (key : Expr)
  | call (location : Location) (function : Expr) (arguments : List Expr)
  | choice (location : Location) (condition : Expr) (thenValue : Expr) (elseValue : Expr)
  | list (location : Location) (elements : List Expr)
  | dictionary (location : Location) (entries : List (Expr × Expr))
  | function (location : Location) (parameters : List String) (body : Expr)
  deriving Repr, Inhabited

namespace Expr

/-- The place that an expression carries. -/
def location : Expr → Location
  | string l _ => l
  | integer l _ => l
  | float l _ => l
  | name l _ => l
  | member l _ _ => l
  | index l _ _ => l
  | call l _ _ => l
  | choice l _ _ _ => l
  | list l _ => l
  | dictionary l _ => l
  | function l _ _ => l

mutual

/-- How deep the parts of an expression nest. -/
def depth : Expr → Nat
  | member _ base _ => depth base + 1
  | index _ base key => max (depth base) (depth key) + 1
  | call _ callee arguments => max (depth callee) (depthAll arguments) + 1
  | choice _ condition yes no => max (depth condition) (max (depth yes) (depth no)) + 1
  | list _ elements => depthAll elements + 1
  | dictionary _ entries => depthEntries entries + 1
  | function _ _ body => depth body + 1
  | _ => 0

def depthAll : List Expr → Nat
  | [] => 0
  | e :: rest => max (depth e) (depthAll rest)

def depthEntries : List (Expr × Expr) → Nat
  | [] => 0
  | (key, value) :: rest => max (max (depth key) (depth value)) (depthEntries rest)

end

mutual

/-- Whether two expressions are one and the same piece of source: equal trees,
places included. Floating-point literals are compared as numbers, so the zeros
of either sign are equal. -/
def same : Expr → Expr → Bool
  | string l a, string m b => l == m && a == b
  | integer l a, integer m b => l == m && a == b
  | float l a, float m b => l == m && a.equals b
  | name l a, name m b => l == m && a == b
  | member l a x, member m b y => l == m && same a b && x == y
  | index l a i, index m b j => l == m && same a b && same i j
  | call l f xs, call m g ys => l == m && same f g && sameAll xs ys
  | choice l c a b, choice m d x y => l == m && same c d && same a x && same b y
  | list l xs, list m ys => l == m && sameAll xs ys
  | dictionary l xs, dictionary m ys => l == m && sameEntries xs ys
  | function l ps a, function m qs b => l == m && ps == qs && same a b
  | _, _ => false

/-- Pointwise sameness of expressions. -/
def sameAll : List Expr → List Expr → Bool
  | [], [] => true
  | a :: xs, b :: ys => same a b && sameAll xs ys
  | _, _ => false

def sameEntries : List (Expr × Expr) → List (Expr × Expr) → Bool
  | [], [] => true
  | (a, v) :: xs, (b, w) :: ys => same a b && same v w && sameEntries xs ys
  | _, _ => false

end

end Expr

/-- A template: what stands between expressions, and the expressions, in order. -/
structure Template where
  children : List Expr
  deriving Repr, Inhabited

/-- The place of a template as a whole. -/
def Template.location (_ : Template) : Location := .start

end Inlay
