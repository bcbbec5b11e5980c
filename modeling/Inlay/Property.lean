import Inlay.Json
import Inlay.Scope
import Inlay.Text.Blank

/-!
# Properties

A property is a name with a string. Properties come from files and from
assignments on the command line; bound one after another in the root frame of
a template's scope, the last one of a name wins.
-/

namespace Inlay

/-- A name, which is not empty, with a string. -/
structure Property where
  name : String
  value : String
  deriving DecidableEq, Repr

namespace Property

/-- What is wrong with a field of a property. -/
inductive FieldFault where
  | missing
  | notString
  | tooShort
  deriving DecidableEq, Repr

/-- What is wrong with a name given as a document, if anything is. -/
def nameFault? : Option Json → Option FieldFault
  | none => some .missing
  | some (.string s) => if s.isEmpty then some .tooShort else none
  | some _ => some .notString

/-- What is wrong with a value given as a document, if anything is. -/
def valueFault? : Option Json → Option FieldFault
  | none => some .missing
  | some (.string _) => none
  | some _ => some .notString

/-- The string that a document is, or nothing. -/
def stringOf : Option Json → String
  | some (.string s) => s
  | _ => ""

/-- The property of the given fields, or what is wrong with each field. -/
def ofFields (name value : Option Json) : Except (List (String × FieldFault)) Property :=
  let faults := ((nameFault? name).map fun f => ("name", f)).toList ++
    ((valueFault? value).map fun f => ("value", f)).toList
  if faults.isEmpty then .ok ⟨stringOf name, stringOf value⟩ else .error faults

/-- Reads `name=value`: the trimmed text before the first `=`, which must not
be empty, and all that follows it. None if the text is no assignment. -/
def ofAssignment? (text : String) : Option Property :=
  let cs := text.toList
  let name := Text.trim (cs.takeWhile (· != '='))
  match cs.dropWhile (· != '=') with
  | [] => none
  | _ :: value =>
    if name.isEmpty then none else some ⟨String.ofList name, String.ofList value⟩

/-- Groups of properties, one after another. -/
def merge (groups : List (List Property)) : List Property := groups.flatten

end Property

/-- The scope of one frame that binds properties to their strings. -/
def Scope.ofProperties (properties : List Property) : Scope :=
  Scope.root (properties.map fun p => (p.name, Value.string p.value))

/-- Why properties cannot be had. -/
inductive PropertyFault where
  | notAssignment (text : String)
  | notScalar (name typeName : String) (source : String)
  | unreadable (reason : String) (source : String)
  | badFile (source : String)
  | badEntry (source : String)
  | badShape (source : String)
  | invalid (name : String) (source : String)
  deriving DecidableEq, Repr

namespace PropertyFault

def source? : PropertyFault → Option String
  | notAssignment _ => none
  | notScalar _ _ source => some source
  | unreadable _ source => some source
  | badFile source => some source
  | badEntry source => some source
  | badShape source => some source
  | invalid _ source => some source

/-- The message of a fault without the file. -/
def reason : PropertyFault → String
  | notAssignment text => "Expected name=value, got '" ++ text ++ "'"
  | notScalar name typeName _ =>
    "Property '" ++ name ++ "' must be a scalar, got " ++ typeName
  | unreadable reason _ => "Cannot read property file: " ++ reason
  | badFile _ => "Invalid YAML"
  | badEntry _ => "List entries must be mappings with 'name' and 'value'"
  | badShape _ => "Property file must hold a mapping or a list"
  | invalid name _ => "Invalid property '" ++ name ++ "'"

/-- The message of a fault: the reason and the file. What is wrong inside the
file stands without it. -/
def text (f : PropertyFault) : String :=
  match f with
  | notAssignment _ => f.reason
  | badFile _ => f.reason
  | invalid _ _ => f.reason
  | notScalar _ _ source => f.reason ++ " (" ++ source ++ ")"
  | unreadable _ source => f.reason ++ " (" ++ source ++ ")"
  | badEntry source => f.reason ++ " (" ++ source ++ ")"
  | badShape source => f.reason ++ " (" ++ source ++ ")"

end PropertyFault

end Inlay
