import Inlay.Environment
import Inlay.Files
import Inlay.Settings.Depth
import Inlay.Text.Search

/-!
# Sources of settings

Settings come from environment variables, from the file of a project and from
the file of a user, and they count in this order.

The name of a variable is the prefix and the name of a setting in any case; two
underscores lead into a group. A variable of a whole group holds a JSON
document, and variables of its members count more than the document.
-/

namespace Inlay.Settings

/-- The name under which the loading of settings notes records. -/
def loggerName : String := "camino.config"

/-! ## Variables -/

/-- What the names of variables start with. -/
def variablePrefix : String := "camino_"

/-- What leads from the name of a group to that of a member. -/
def memberMark : String := "__"

/-- The variables with their names in lower case. -/
def lowered (env : Environment) : Environment :=
  env.foldl (fun done (name, value) => done.set (Text.lower name) value) []

/-- Sets a value inside of mappings; a value that is no mapping on the way is
left as it is. -/
def setWithin (names : List String) (value : Data) (d : Data) : Data :=
  match names, d with
  | [], _ => value
  | name :: rest, .mapping entries =>
    match rest with
    | [] => .mapping (Data.put (.text name) value entries)
    | _ =>
      let inner := (Data.find? entries (.text name)).getD (.mapping [])
      .mapping (Data.put (.text name) (setWithin rest value inner) entries)
  | _, d => d

def memberData (env : Environment) (group : String) : Data :=
  let start := variablePrefix ++ group ++ memberMark
  env.foldl (fun d (name, value) =>
    if name.startsWith start then
      let names := Text.pieces memberMark.toList (name.toList.drop start.length)
      setWithin (names.map String.ofList) (.text value) d
    else d) (.mapping [])

/-- A group with the names of its known members in lower case. -/
def knownMembers (members : List String) : Data → Data
  | .mapping entries =>
    .mapping (entries.foldl (fun done (k, v) =>
      let name := match k with
        | .text s => if members.contains (Text.lower s) then .text (Text.lower s) else k
        | _ => k
      Data.put name v done) [])
  | d => d

/-- A group as variables set it; none if they do not. -/
def groupData (env : Environment) (group : String) (members : List String) :
    Except LoadFault (Option Data) :=
  let inner := memberData env group
  match env.value? (variablePrefix ++ group) with
  | none =>
    match inner with
    | .mapping [] => .ok none
    | d => .ok (some (knownMembers members d))
  | some text =>
    match Json.parse Json.nestingLimit text with
    | .error .malformed => .error (.badVariable group)
    | .error (.tooDeep isObject) => .error (.deepVariable isObject)
    | .ok .null => .ok none
    | .ok (.object ms) =>
      .ok (some (knownMembers members ((Data.ofJson (.object ms)).overlaid inner)))
    | .ok j => .ok (some (.ofJson j))

/-- What variables set. -/
def variableData (env : Environment) : Except LoadFault Data := do
  let env := lowered env
  let group ← groupData env renderName [depthName]
  let word := env.value? (variablePrefix ++ verbosityName)
  return .mapping ((group.map fun d => (.text renderName, d)).toList ++
    (word.map fun s => (.text verbosityName, .text s)).toList)

/-! ## Files -/

/-- What a file sets. A file that is not there or is empty sets nothing. -/
def fileData (files : Files) (path : String) : Loading Data := do
  match files path with
  | .regular bytes =>
    let text ← match fileText bytes with
      | .ok text => pure text
      | .error f => throw (.undecodable f)
    let field : String × Data := ("path", .text path)
    match Yaml.read text with
    | .error (.malformed _) => throw (.settings (.malformedFile path))
    | .error f => throw (.data f)
    | .ok .null =>
      Loading.note .warning loggerName "config_file_empty" [field]
      return .mapping []
    | .ok (.mapping entries) =>
      Loading.note .debug loggerName "config_file_loaded"
        [field, ("keys", .list (entries.map (·.1)))]
      return .mapping entries
    | .ok d => throw (.settings (.notMapping path d))
  | _ => return .mapping []

/-! ## Checking -/

def ofData (d : Data) : Except SettingsFault Settings := do
  let depth ← match d.get? renderName with
    | none => pure default.maxCallDepth
    | some (.mapping entries) =>
      match Data.find? entries (.text depthName) with
      | none => pure default.maxCallDepth
      | some found =>
        match readDepth found with
        | .ok n => pure n
        | .error p => throw (.invalid [renderName, depthName] p found)
    | some found => throw (.invalid [renderName] .notMapping found)
  let verbosity ← match d.get? verbosityName with
    | none => pure default.verbosity
    | some found =>
      let known := match found with
        | .text s => Verbosity.ofName? s
        | _ => none
      match known with
      | some v => pure v
      | none =>
        throw (.invalid [verbosityName] (.unknownWord (Verbosity.all.map Verbosity.name)) found)
  return ⟨depth, verbosity⟩

def allNamed : Data → Bool
  | .mapping entries => entries.all fun (k, _) => match k with
    | .text _ => true
    | _ => false
  | _ => true

/-! ## Loading -/

/-- Where a program runs: its directory and its user's home, as paths. -/
structure Surroundings where
  files : Files
  environment : Environment
  directory : String
  home : String

def projectFileName : String := "camino.yaml"

/-- The file of a user, within the home directory. -/
def userFileName : String := ".config/camino/config.yaml"

/-- Loads the settings; `path?` is the file of the project if it is not the
usual one. -/
def load (s : Surroundings) (path? : Option String) : Loading Settings := do
  let project := match path? with
    | some path => FilePath.normalize path
    | none => FilePath.within s.directory projectFileName
  if !(s.files project).exists? then
    Loading.note .info loggerName "project_config_missing" [("path", .text project)]
  let fromProject ← fileData s.files project
  let fromUser ← fileData s.files (FilePath.within s.home userFileName)
  let fromVariables ← variableData s.environment
  let merged := (fromUser.overlaid fromProject).overlaid fromVariables
  if !allNamed merged then throw .namelessSetting
  match ofData merged with
  | .ok settings => return settings
  | .error f => throw (.settings f)

end Inlay.Settings
