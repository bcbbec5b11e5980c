import Inlay.Yaml.Tag

/-!
# Nodes

A document is a tree of scalars, sequences and mappings, each with a tag that
says what it means. An alias stands for the node that it names; one that names a
node it lies within stays a node of its own.
-/

namespace Inlay.Yaml

/-- A node of a document. -/
inductive Node where
  | scalar (tag : Tag) (text : String)
  | sequence (tag : Tag) (items : List Node)
  | mapping (tag : Tag) (entries : List (Node × Node))
  /-- An alias of a node around it, which is a mapping or else a sequence. -/
  | enclosing (tag : Tag) (isMapping : Bool)
  deriving Repr

namespace Node

def tag : Node → Tag
  | scalar t _ => t
  | sequence t _ => t
  | mapping t _ => t
  | enclosing t _ => t

/-- A value that is left out. -/
def empty : Node := scalar .null ""

mutual

def height : Node → Nat
  | scalar _ _ => 1
  | sequence _ items => heightAll items + 1
  | mapping _ entries => heightEntries entries + 1
  | enclosing _ _ => 1

def heightAll : List Node → Nat
  | [] => 0
  | n :: rest => max n.height (heightAll rest)

def heightEntries : List (Node × Node) → Nat
  | [] => 0
  | (k, v) :: rest => max (max k.height v.height) (heightEntries rest)

end

/-! ## Merging

The key `<<` stands for the entries of the mapping that is its value, or of all
mappings in a sequence, the first of which counts most. They come before a
mapping's own entries, which count more. -/

mutual

/-- The entries of a mapping with those that it takes over in front. -/
def mergedEntries : Node → Except Fault (List (Node × Node))
  | mapping _ entries =>
    (splitEntries entries).map fun (inherited, own) => inherited ++ own
  | _ => .ok []

/-- Entries that are taken over, and a mapping's own ones. -/
def splitEntries :
    List (Node × Node) → Except Fault (List (Node × Node) × List (Node × Node))
  | [] => .ok ([], [])
  | (k, v) :: rest => do
    if k.tag = .merge then
      let inherited ← match v with
        | mapping t entries => mergedEntries (mapping t entries)
        | sequence _ items => mergedItems items
        | enclosing _ true => pure []
        | _ => throw (.malformed .badMerge)
      let (more, own) ← splitEntries rest
      return (inherited ++ more, own)
    else
      let (more, own) ← splitEntries rest
      return (more, (k, v) :: own)

/-- The entries of the mappings in a sequence, those of the last one first. -/
def mergedItems : List Node → Except Fault (List (Node × Node))
  | [] => .ok []
  | n :: rest => do
    let first ← match n with
      | mapping t entries => mergedEntries (mapping t entries)
      | enclosing _ true => pure []
      | _ => throw (.malformed .badMerge)
    let more ← mergedItems rest
    return more ++ first

end

end Node

end Inlay.Yaml
