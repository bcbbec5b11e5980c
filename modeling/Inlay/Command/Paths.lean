import Inlay.Command

/-!
# Paths on the command line

The paths that a command line can lead to. What is found at them, and at the
directories around them, is all that a command can see of the files.
-/

namespace Inlay.Command

def pathsAfterName (args : List String) : List String :=
  match readWords renderSwitches true args with
  | .ok words => words.values "properties-file" ++ words.values "output" ++ words.ordinary
  | .error _ => []

def pathsGiven (args : List String) : List String :=
  match readWords programSwitches false args with
  | .ok words =>
    (words.values "config").map FilePath.normalize ++ pathsAfterName (words.ordinary.drop 1)
  | .error _ => []

def settingsPaths (directory home : String) : List String :=
  [FilePath.within directory Settings.projectFileName,
    FilePath.within home Settings.userFileName]

/-- All paths that a command line leads to, and the directories around them. -/
def paths (directory home : String) (args : List String) : List String :=
  let direct := settingsPaths directory home ++ pathsGiven args
  direct ++ direct.map Files.parent

end Inlay.Command
