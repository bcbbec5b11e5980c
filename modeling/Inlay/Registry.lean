import Inlay.Function

/-!
# Registries

A registry holds functions under their names, each name once, in the order in
which they were added. A function that has been added stays; adding another
one of its name fails and changes nothing.
-/

namespace Inlay

/-- The functions that templates may call, in the order of their addition. -/
structure Registry where
  functions : List Function
  deriving DecidableEq, Repr, Inhabited

/-- Why a registry does not do what is asked. -/
inductive RegistryFault where
  | duplicate (name : String)
  | notFound (name : String)
  | arity (least most : Int)
  deriving DecidableEq, Repr

namespace RegistryFault

def text : RegistryFault → String
  | duplicate name => "Function '" ++ name ++ "' is already registered"
  | notFound name => "Function '" ++ name ++ "' is not registered"
  | arity least most =>
    "max_args (" ++ toString most ++ ") < min_args (" ++ toString least ++ ")"

end RegistryFault

namespace Registry

def empty : Registry := ⟨[]⟩

def find? (r : Registry) (name : String) : Option Function :=
  List.find? (fun f => f.name == name) r.functions

/-- Whether there is a function of a name. -/
def contains (r : Registry) (name : String) : Bool := (r.find? name).isSome

def get (r : Registry) (name : String) : Except RegistryFault Function :=
  match r.find? name with
  | some f => .ok f
  | none => .error (.notFound name)

def add (r : Registry) (f : Function) : Except RegistryFault Registry :=
  if r.contains f.name then .error (.duplicate f.name) else .ok ⟨r.functions ++ [f]⟩

/-- Adds a function whose greatest number of arguments, if it has one, must not
be below the least. -/
def register (r : Registry) (f : Function) : Except RegistryFault Registry :=
  match f.maxArgs with
  | some most => if most < f.minArgs then .error (.arity f.minArgs most) else r.add f
  | none => r.add f

/-- The registry of a list of functions, added one after another. -/
def ofList (functions : List Function) : Except RegistryFault Registry :=
  functions.foldlM add empty

/-- How many functions there are. -/
def size (r : Registry) : Nat := r.functions.length

/-- The names of the functions, sorted. -/
def names (r : Registry) : List String :=
  (r.functions.map Function.name).mergeSort fun a b => decide (a ≤ b)

end Registry

end Inlay
