import Inlay.Text.Ranges

/-!
# Paths of files

A path is written without empty and `.` parts, except that an absolute path
keeps its root (two leading slashes are a root of their own) and an empty path
is `.`.
-/

namespace Inlay.FilePath

def parts (path : List Char) : List (List Char) :=
  (Text.cutAt (· == '/') path).filter fun part => !part.isEmpty && part != ['.']

/-- The root of a path: none, one slash, or exactly two. -/
def root : List Char → List Char
  | '/' :: '/' :: '/' :: _ => ['/']
  | '/' :: '/' :: _ => ['/', '/']
  | '/' :: _ => ['/']
  | _ => []

def normalize (path : String) : String :=
  let cs := path.toList
  let body := ['/'].intercalate (parts cs)
  let whole := root cs ++ body
  if whole.isEmpty then "." else String.ofList whole

/-- Parts of a relative path with each `..` taken together with the part before
it, if that is a name. -/
def resolveParts (parts : List (List Char)) : List (List Char) :=
  (parts.foldl (fun done part =>
    match done with
    | last :: before => if part = ['.', '.'] ∧ last ≠ part then before else part :: done
    | [] => [part]) []).reverse

/-- A relative path in its shortest form. -/
def resolved (parts : List (List Char)) : List Char :=
  match resolveParts parts with
  | [] => ['.']
  | rest => ['/'].intercalate rest

/-- A path inside a directory; an absolute path is taken as it is. -/
def within (directory path : String) : String :=
  if path.startsWith "/" then path
  else if directory.endsWith "/" then directory ++ path
  else directory ++ "/" ++ path

end Inlay.FilePath
