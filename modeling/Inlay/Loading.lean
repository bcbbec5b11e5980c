import Inlay.Log
import Inlay.Property
import Inlay.Text.Utf8
import Inlay.Yaml

/-!
# Loading

Loading reads files and variables, notes what it did in records, and ends with
what was loaded or with a fault. The records that were made before a fault stay.

A fault of the properties or the settings is one that a user can mend and is
shown as a message. The other faults come from files that hold no text, name
things that do not exist, hold numbers too long to be written or nest too deep
for the stack, and are passed on as they are.
-/

namespace Inlay

/-- What is wrong with a setting. -/
inductive SettingProblem where
  | notMapping
  | notInteger
  | unreadableInteger
  | integerTooLong
  | fractional
  | notFinite
  | tooSmall (least : Nat)
  | tooLarge (most : Nat)
  | unknownWord (words : List String)
  deriving DecidableEq, Repr

/-- Words in a row, the last two joined by `or`, each in quotes. -/
def alternativesText : List String → String
  | [] => ""
  | [w] => "'" ++ w ++ "'"
  | [v, w] => "'" ++ v ++ "' or '" ++ w ++ "'"
  | w :: rest => "'" ++ w ++ "', " ++ alternativesText rest

namespace SettingProblem

def text : SettingProblem → String
  | notMapping => "Input should be a valid dictionary or instance of RenderConfig"
  | notInteger => "Input should be a valid integer"
  | unreadableInteger => "Input should be a valid integer, unable to parse string as an integer"
  | integerTooLong => "Unable to parse input string as an integer, exceeded maximum size"
  | fractional => "Input should be a valid integer, got a number with a fractional part"
  | notFinite => "Input should be a finite number"
  | tooSmall least => "Input should be greater than or equal to " ++ toString least
  | tooLarge most => "Input should be less than or equal to " ++ toString most
  | unknownWord words => "Input should be " ++ alternativesText words

end SettingProblem

/-- Why settings cannot be had. -/
inductive SettingsFault where
  | malformedFile (path : String)
  | notMapping (path : String) (found : Data)
  | invalid (setting : List String) (problem : SettingProblem) (found : Data)
  deriving Repr

namespace SettingsFault

def text : SettingsFault → String
  | malformedFile path => "Invalid YAML in " ++ path
  | notMapping path found =>
    "Config file " ++ path ++ " must contain a mapping, got " ++ found.typeName
  | invalid _ problem _ => "Invalid configuration: " ++ problem.text

/-- The setting that a fault is about, with the names that lead to it. -/
def field? : SettingsFault → Option String
  | invalid setting _ _ => some (".".intercalate setting)
  | _ => none

/-- The data that is refused; `null` if it is not known. -/
def found : SettingsFault → Data
  | malformedFile _ => .null
  | notMapping _ found => found
  | invalid _ _ found => found

end SettingsFault

/-- Why loading ends early. -/
inductive LoadFault where
  | property (f : PropertyFault)
  | settings (f : SettingsFault)
  | undecodable (f : Text.Utf8.Fault)
  | data (f : Yaml.Fault)
  /-- An integer has too many digits to be written. -/
  | numeralTooLong
  /-- A variable that should hold a document holds none. -/
  | badVariable (setting : String)
  /-- The document in a variable holds an array, or else an object, that lies too deep. -/
  | deepVariable (isObject : Bool)
  /-- The name of a setting in a file is no text. -/
  | namelessSetting
  deriving Repr

namespace LoadFault

def text : LoadFault → String
  | property f => f.text
  | settings f => f.text
  | undecodable f => f.text
  | data f => f.text
  | numeralTooLong => Numeral.tooLongToWriteText
  | badVariable setting =>
    "error parsing value for field \"" ++ setting ++ "\" from source \"EnvSettingsSource\""
  | deepVariable isObject =>
    "maximum recursion depth exceeded while decoding a JSON " ++
      (if isObject then "object" else "array") ++ " from a unicode string"
  | namelessSetting => "keywords must be strings"

def class? : LoadFault → Option FaultClass
  | property _ => none
  | settings _ => none
  | undecodable _ => some .undecodable
  | data f => f.class?
  | numeralTooLong => some .badValue
  | badVariable _ => some .badSettings
  | deepVariable _ => some .noMemory
  | namelessSetting => some .wrongType

end LoadFault

/-- Loading, which notes records. -/
abbrev Loading := ExceptT LoadFault (StateM (List Log.Record))

namespace Loading

/-- Notes a record. -/
def note (level : Log.Level) (logger event : String) (fields : Log.Fields) : Loading Unit :=
  modify fun records => records ++ [⟨level, logger, event, fields⟩]

def outcome {α : Type} (l : Loading α) : Except LoadFault α × List Log.Record :=
  (ExceptT.run l).run []

end Loading

end Inlay
