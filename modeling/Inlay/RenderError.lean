import Inlay.Library.Fault
import Inlay.Value.Description

/-!
# Why a template fails to render

Every failure has a cause and the place of the node where it came up; errors
in the body of a closure reach the caller unchanged.
-/

namespace Inlay

/-- A value of the wrong type in an operation. -/
inductive TypeMismatch where
  | memberOf (member typeName : String)
  | listIndex (typeName : String)
  | notAKey (typeName : String)
  | notIndexable (typeName : String)
  | notCallable (typeName : String)
  | condition (typeName : String)
  deriving DecidableEq, Repr

namespace TypeMismatch

def text : TypeMismatch → String
  | memberOf member t => "Cannot access member '" ++ member ++ "' of " ++ t ++ " value"
  | listIndex t => "List index must be Integer, got " ++ t
  | notAKey t => t ++ " value cannot be a dictionary key"
  | notIndexable t => "Cannot index " ++ t ++ " value"
  | notCallable t => t ++ " value is not callable"
  | condition t => "Condition must be Boolean, got " ++ t

end TypeMismatch

/-- Why a call of a built-in function fails: it was given too few or too many
arguments, it failed itself, or what it returned is no value of templates. -/
inductive CallFailure where
  | arity (arityText : String) (given : Nat)
  | fault (f : CallFault)
  | unsupported (representation : String)
  deriving DecidableEq, Repr

namespace CallFailure

def text : CallFailure → String
  | arity wanted given =>
    "expects " ++ wanted ++ " argument(s), got " ++ toString given
  | fault f => f.text
  | unsupported representation => "returned unsupported value of type " ++ representation

end CallFailure

/-- Why a template fails to render. -/
inductive RenderCause where
  | unresolved (name : String)
  | typeMismatch (mismatch : TypeMismatch)
  | memberNotFound (key : Value)
  | indexOutOfRange (index : Int) (length : Nat)
  | arityMismatch (expected actual : Nat)
  | callFailed (function : String) (failure : CallFailure)
  | callDepthExceeded (limit : Int)
  deriving Repr

namespace RenderCause

def text : RenderCause → String
  | unresolved name => "Unresolved reference '" ++ name ++ "'"
  | typeMismatch mismatch => mismatch.text
  | memberNotFound key => "Member " ++ key.fullText ++ " not found"
  | indexOutOfRange index length =>
    "Index " ++ integerText index ++ " out of range for list of length " ++ toString length
  | arityMismatch expected actual =>
    "Function expects " ++ toString expected ++ " argument(s) but was called with " ++
      toString actual
  | callFailed function failure => "Call to '" ++ function ++ "' failed: " ++ failure.text
  | callDepthExceeded limit =>
    "Maximum call depth of " ++ toString limit ++ " exceeded"

end RenderCause

/-- A failure of rendering. -/
structure RenderError where
  cause : RenderCause
  location : Location
  deriving Repr

end Inlay
