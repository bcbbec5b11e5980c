/-!
# Built-in functions

A built-in function is a routine under a name, with the number of arguments it
takes. The routines of the standard library are listed here by name; what they
compute stands in the modules of the library. A host adds routines of its own,
known here only by their names.
-/

namespace Inlay

/-- The routines of the standard library. -/
inductive StandardRoutine where
  | eq | ne | lt | le | gt | ge
  | not | and | or
  | add | sub | mul | div | mod
  | concat | upper | lower | trim | replace | matches | split | join | format
  | size | head | tail | keys | values | contains | range
  | int | float | str
  | now | formatTime
  deriving DecidableEq, Repr

/-- What a built-in function runs. -/
inductive Routine where
  | standard (r : StandardRoutine)
  | host (name : String)
  deriving DecidableEq, Repr

/-- A routine under a name, with the least and greatest number of its
arguments (none: any number) and a line that describes it. -/
structure Function where
  name : String
  routine : Routine
  minArgs : Int
  maxArgs : Option Int
  description : String
  deriving DecidableEq, Repr

namespace Function

/-- Whether so many arguments may be given. -/
def accepts (f : Function) (count : Int) : Bool :=
  f.minArgs ≤ count && match f.maxArgs with
    | none => true
    | some most => count ≤ most

/-- The number of arguments in words: `2`, `1..3` or `1+`. -/
def arityText (f : Function) : String :=
  match f.maxArgs with
  | none => toString f.minArgs ++ "+"
  | some most =>
    if most = f.minArgs then toString f.minArgs
    else toString f.minArgs ++ ".." ++ toString most

end Function

end Inlay
