import Inlay.Value

/-!
# Scopes

A scope is a chain of frames, innermost first. A name means what the innermost
frame that binds it says. Extending a scope leaves it as it was, so what a
closure captured never changes.
-/

namespace Inlay

namespace Frame

/-- Binds a name: an earlier binding of it keeps its place and gets the new
value. -/
def bind (name : String) (value : Value) : Frame → Frame
  | [] => [(name, value)]
  | (n, v) :: rest =>
    if n = name then (n, value) :: rest else (n, v) :: bind name value rest

/-- The frame of a list of bindings, where the last one of a name wins. -/
def ofBindings (bindings : List (String × Value)) : Frame :=
  bindings.foldl (fun frame (name, value) => frame.bind name value) []

def get? (frame : Frame) (name : String) : Option Value := List.lookup name frame

def names (frame : Frame) : List String := frame.map Prod.fst

end Frame

/-- A chain of frames, innermost first. -/
structure Scope where
  frames : List Frame
  deriving Repr, Inhabited

namespace Scope

def root (bindings : List (String × Value)) : Scope := ⟨[Frame.ofBindings bindings]⟩

def empty : Scope := root []

/-- A new frame inside a scope. -/
def child (scope : Scope) (bindings : List (String × Value)) : Scope :=
  ⟨Frame.ofBindings bindings :: scope.frames⟩

/-- What a name means: the binding of the innermost frame that has one. -/
def lookup (scope : Scope) (name : String) : Option Value :=
  scope.frames.findSome? fun frame => frame.get? name

/-- Whether a name is bound in some frame. -/
def binds (scope : Scope) (name : String) : Bool :=
  scope.frames.any fun frame => frame.names.contains name

/-- The names that are bound in some frame, each once. -/
def names (scope : Scope) : List String :=
  (scope.frames.flatMap Frame.names).foldl
    (fun seen name => if seen.contains name then seen else seen ++ [name]) []

/-- How many frames there are. -/
def depth (scope : Scope) : Nat := scope.frames.length

/-- Whether a scope has no frame around its innermost one. -/
def isRoot (scope : Scope) : Bool := scope.depth ≤ 1

end Scope

end Inlay
