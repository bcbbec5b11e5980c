/-!
# Environment variables

The variables that a program was started with, in their order. Of two with one
name the later one counts.
-/

namespace Inlay

/-- Environment variables. -/
abbrev Environment := List (String × String)

namespace Environment

def value? (env : Environment) (name : String) : Option String := env.reverse.lookup name

/-- The value of a variable; one that is not set is empty. -/
def value (env : Environment) (name : String) : String := (env.value? name).getD ""

/-- Sets a variable, in its old place if it has one. -/
def set (env : Environment) (name value : String) : Environment :=
  match env with
  | [] => [(name, value)]
  | (n, v) :: rest => if n = name then (n, value) :: rest else (n, v) :: set rest name value

end Environment

end Inlay
