import Inlay.Data
import Inlay.Log

/-!
# Settings

What can be set: how deeply calls may nest, and which log records are written
unless the command line says so. Sources of settings are mappings. Of two
sources the one that counts more wins setting by setting: mappings are merged
level by level, and anything else replaces what it meets.
-/

namespace Inlay

/-- The least serious records that are written. -/
inductive Verbosity where
  | error
  | warning
  | info
  | debug
  deriving DecidableEq, Repr

namespace Verbosity

def name : Verbosity → String
  | error => "error"
  | warning => "warning"
  | info => "info"
  | debug => "debug"

/-- All verbosities, from the most to the least serious. -/
def all : List Verbosity := [error, warning, info, debug]

def ofName? (s : String) : Option Verbosity := all.find? fun v => v.name == s

/-- The level of the least serious records. -/
def level : Verbosity → Log.Level
  | error => .error
  | warning => .warning
  | info => .info
  | debug => .debug

end Verbosity

/-- The settings of a program. -/
structure Settings where
  maxCallDepth : Nat
  verbosity : Verbosity
  deriving DecidableEq, Repr

namespace Settings

def default : Settings := ⟨100, .warning⟩

/-- The least depth of calls that can be set. -/
def leastDepth : Nat := 1

/-- The greatest depth of calls that can be set. -/
def greatestDepth : Nat := 10000

def renderName : String := "render"

def depthName : String := "max_call_depth"

def verbosityName : String := "verbosity"

end Settings

/-! ## Merging sources -/

namespace Data

mutual

/-- Data with other data over it that counts more. -/
def overlaid : Data → Data → Data
  | mapping below, mapping above => mapping (overlayEntries below above)
  | _, above => above

/-- Entries with others over them, one after the other. -/
def overlayEntries (below : List (Data × Data)) : List (Data × Data) → List (Data × Data)
  | [] => below
  | (k, v) :: rest =>
    let value := match find? below k with
      | some old => overlaid old v
      | none => v
    overlayEntries (put k value below) rest

end

end Data

end Inlay
