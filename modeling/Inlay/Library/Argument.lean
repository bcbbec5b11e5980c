import Inlay.Library.Fault

/-!
# Arguments of built-in functions

A routine states which type it expects of an argument, and takes what is in
it or fails with that expectation and the type that it found.
-/

namespace Inlay

namespace Argument

/-- The fault of a value that is not what was expected. -/
def mismatch {α : Type} (what : String) (v : Value) : Outcome α :=
  .error (.expected what v.typeName)

def string : Value → Outcome String
  | .string s => .ok s
  | v => mismatch "String" v

def boolean : Value → Outcome Bool
  | .boolean b => .ok b
  | v => mismatch "Boolean" v

def integer : Value → Outcome Int
  | .integer n => .ok n
  | v => mismatch "Integer" v

def list : Value → Outcome (List Value)
  | .list _ elements => .ok elements
  | v => mismatch "List" v

def dictionary : Value → Outcome (List (Value × Value))
  | .dictionary _ entries => .ok entries
  | v => mismatch "Dictionary" v

end Argument

end Inlay
