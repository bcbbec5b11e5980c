/-!
# Classes of failures

Built-in functions and the reading of files fail in a few ways that a host can
tell apart without reading the message.
-/

namespace Inlay

/-- The classes of failures. -/
inductive FaultClass where
  | wrongType
  | badValue
  | outOfBounds
  | overflow
  | zeroDivision
  | missingKey
  | missingMember
  | badPattern
  | unknownZone
  | noMemory
  | system
  | undecodable
  | badSettings
  deriving DecidableEq, Repr

end Inlay
