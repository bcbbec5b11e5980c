import Inlay.FilePath
import Inlay.Text.Lines
import Inlay.Text.Utf8

/-!
# Files

What a program finds where a path leads. A program is given all that it may read
as a function from paths, so that running it has no effects.
-/

namespace Inlay

/-- What is found at a path. -/
inductive FileState where
  | regular (bytes : ByteArray)
  | directory
  | absent
  /-- A part of the path leads through a file. -/
  | beneathFile

/-- What is found at each path. -/
abbrev Files := String → FileState

namespace FileState

/-- Whether there is anything at all. -/
def exists? : FileState → Bool
  | regular _ => true
  | directory => true
  | absent => false
  | beneathFile => false

def open? : FileState → Except String ByteArray
  | regular bytes => .ok bytes
  | directory => .error "Is a directory"
  | absent => .error "No such file or directory"
  | beneathFile => .error "Not a directory"

end FileState

namespace Files

/-- What is found in a tree of files, each under the names that lead to it. -/
def ofTree (tree : List (List (List Char) × ByteArray)) (path : List (List Char)) : FileState :=
  match tree.find? fun (names, _) => names == path with
  | some (_, bytes) => .regular bytes
  | none =>
    if path.isEmpty || tree.any fun (names, _) => path.isPrefixOf names then .directory
    else if tree.any fun (names, _) => names.isPrefixOf path then .beneathFile
    else .absent

/-- Follows names through a tree, from where the names `done` lead, the last one
first. A name can be followed only from a directory. -/
def follow (tree : List (List (List Char) × ByteArray)) (done : List (List Char)) :
    List (List Char) → FileState
  | [] => ofTree tree done.reverse
  | name :: rest =>
    match ofTree tree done.reverse, done with
    | .directory, [] => if name = ['.', '.'] then .absent else follow tree [name] rest
    | .directory, _ :: above =>
      if name = ['.', '.'] then follow tree above rest else follow tree (name :: done) rest
    | .regular _, _ => .beneathFile
    | state, _ => state

/-- The files in a tree that stands at `root`, which relative paths start from.
Nothing else is there. -/
def beneath (root : String) (tree : List (List (List Char) × ByteArray)) : Files := fun path =>
  let inside := if path.startsWith root then path.toList.drop root.length else path.toList
  let isForeign := path.isEmpty || (inside.head? = some '/' && !path.startsWith root)
  if isForeign then .absent
  else
    match follow tree [] (FilePath.parts inside) with
    | .regular bytes => if inside.getLast? = some '/' then .beneathFile else .regular bytes
    | state => state

/-- The path that leads to where a path's last name stands. -/
def parent (path : String) : String :=
  let cs := (path.toList.reverse.dropWhile (· == '/')).dropWhile (· != '/')
  if cs.isEmpty then "." else String.ofList cs.reverse

/-- Why a file cannot be written, if it cannot. -/
def writeFault? (files : Files) (path : String) : Option String :=
  match files path with
  | .regular _ => none
  | .directory => some "Is a directory"
  | .beneathFile => some "Not a directory"
  | .absent =>
    match files (parent path) with
    | .directory =>
      if path.isEmpty then some "No such file or directory"
      else if path.endsWith "/" then some "Is a directory"
      else none
    | _ => some "No such file or directory"

end Files

/-- The text of a file's bytes, with one kind of line end. -/
def fileText (bytes : ByteArray) : Except Text.Utf8.Fault String :=
  (Text.Utf8.decode bytes).map fun s => String.ofList (Text.normalizeLineEnds s.toList)

end Inlay
