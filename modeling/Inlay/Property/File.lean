import Inlay.Files
import Inlay.Loading

/-!
# Properties from files

A file of properties holds a mapping of names to scalars, or a list of mappings
that have a name and perhaps a value. The first entry that is no property ends
the reading. Nothing at all is no fault.
-/

namespace Inlay.Property

/-- The name under which the loading of properties notes records. -/
def loggerName : String := "camino.properties"

/-- The string that a scalar stands for as the value of a property. -/
def valueText? : Data → Option String
  | .null => some ""
  | .boolean b => some (if b then "true" else "false")
  | .integer n => some (integerText n)
  | .float x => some x.text
  | .text s => some s
  | _ => none

/-- The property of a name and a value. Either may be too long to be written; the
name is written first. -/
def ofEntry (source : String) (name value : Data) : Except LoadFault Property := do
  if !name.isWritable then throw .numeralTooLong
  let nameText := name.plainText
  match valueText? value with
  | none => throw (.property (.notScalar nameText value.typeName source))
  | some text =>
    if !value.isWritable then throw .numeralTooLong
    if nameText.isEmpty then throw (.property (.invalid nameText source))
    return ⟨nameText, text⟩

def ofItem (source : String) : Data → Except LoadFault Property
  | .mapping entries =>
    match Data.find? entries (.text "name") with
    | some name => ofEntry source name ((Data.find? entries (.text "value")).getD .null)
    | none => .error (.property (.badEntry source))
  | _ => .error (.property (.badEntry source))

def ofData (source : String) : Data → Except LoadFault (List Property)
  | .null => .ok []
  | .mapping entries => entries.mapM fun (name, value) => ofEntry source name value
  | .list items => items.mapM (ofItem source)
  | .pairs entries => entries.mapM fun _ => .error (.property (.badEntry source))
  | _ => .error (.property (.badShape source))

def fileData (source : String) (bytes : ByteArray) : Except LoadFault Data :=
  match fileText bytes with
  | .error f => .error (.undecodable f.local)
  | .ok text =>
    match Yaml.read text with
    | .ok d => .ok d
    | .error (.malformed _) => .error (.property (.badFile source))
    | .error f => .error (.data f)

def load (files : Files) (path : String) : Loading (List Property) := do
  let source := FilePath.normalize path
  let field : String × Data := ("path", .text source)
  match (files source).open? with
  | .error reason => throw (.property (.unreadable reason source))
  | .ok bytes =>
    match ← fileData source bytes with
    | .null =>
      Loading.note .warning loggerName "property_file_empty" [field]
      return []
    | d =>
      match ofData source d with
      | .error f => throw f
      | .ok properties =>
        Loading.note .debug loggerName "properties_loaded"
          [field, ("count", .integer properties.length)]
        return properties

/-- Reads an assignment. -/
def assign (text : String) : Loading Property :=
  match ofAssignment? text with
  | some p => return p
  | none => throw (.property (.notAssignment text))

/-- Loads files and reads assignments; what comes later counts more. -/
def collect (files : Files) (paths assignments : List String) : Loading (List Property) := do
  let fromFiles ← paths.mapM (load files)
  let assigned ← assignments.mapM assign
  return merge (fromFiles ++ [assigned])

end Inlay.Property
