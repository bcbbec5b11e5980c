import Inlay.Yaml.Node.Reader
import Inlay.Yaml.Scalar

/-!
# Data from documents

The data that the nodes of a document stand for. Collections are filled level by
level: the items of all collections of one level are looked at before anything
inside of them. So of two faults the one on the outer level is reported, and of
two on one level the first.
-/

namespace Inlay.Yaml

/-- A fault and the level of the node that it was found at. -/
structure LocatedFault where
  level : Nat
  fault : Fault
  deriving Repr

/-- The result of building data. -/
abbrev Build (α : Type) := Except LocatedFault α

namespace Build

def fail {α : Type} (level : Nat) (reason : Malformed) : Build α :=
  .error ⟨level, .malformed reason⟩

/-- Two results, or the fault of them that is reported. -/
def both {α β : Type} (x : Build α) (y : Build β) : Build (α × β) :=
  match x, y with
  | .ok a, .ok b => .ok (a, b)
  | .error f, .ok _ => .error f
  | .ok _, .error g => .error g
  | .error f, .error g => .error (if g.level < f.level then g else f)

/-- All results, or the fault of them that is reported. -/
def all {α : Type} : List (Build α) → Build (List α)
  | [] => .ok []
  | x :: rest => (both x (all rest)).map fun (a, as) => a :: as

end Build

namespace Node

/-- The text of a node that is to be a scalar: its own, or that of the entry
which says what a mapping stands for. -/
def scalarText? : Node → Option String
  | scalar _ text => some text
  | mapping _ entries => valueText? entries
  | _ => none
where
  valueText? : List (Node × Node) → Option String
    | [] => none
    | (k, v) :: rest => if k.tag = .value then scalarText? v else valueText? rest

/-- The data of a key. A key that says what its mapping stands for is a text. -/
def withKeyTag : Node → Node
  | scalar .value text => scalar .text text
  | n => n

def entryOf (build : Node → Build Data) (level : Nat) (k v : Node) : Build (Data × Data) :=
  match build k.withKeyTag with
  | .error f => .error f
  | .ok key =>
    if key.isScalar then (build v).map fun value => (key, value)
    else .fail level .unhashableKey

/-- The entries of a mapping with distinct keys. -/
def entriesOf (build : Node → Build Data) (level : Nat) (n : Node) :
    Build (List (Data × Data)) :=
  match n with
  | mapping _ _ =>
    match n.mergedEntries with
    | .error f => .error ⟨level, f⟩
    | .ok entries =>
      (Build.all (entries.map fun (k, v) => entryOf build level k v)).map Data.distinct
  | _ => .fail level .wrongKind

/-- The entries of a sequence of mappings that have one entry each. -/
def pairsOf (build : Node → Build Data) (level : Nat) (n : Node) :
    Build (List (Data × Data)) :=
  match n with
  | sequence _ items =>
    Build.all (items.map fun
      | mapping _ [(k, v)] => Build.both (build k) (build v)
      | _ => .fail level .wrongKind)
  | _ => .fail level .wrongKind

def itemsOf (build : Node → Build Data) (level : Nat) (n : Node) : Build (List Data) :=
  match n with
  | sequence _ items => Build.all (items.map build)
  | _ => .fail level .wrongKind

/-- The data that a node of `height` levels stands for, where the node itself is
at a given level. -/
def build (height level : Nat) (n : Node) : Build Data :=
  match height with
  | 0 => .fail level .wrongKind
  | height + 1 =>
    let inner := build height (level + 1)
    match n with
    | enclosing _ isMapping => .ok (.enclosing isMapping)
    | n =>
      match n.tag with
      | .sequence => (itemsOf inner (level + 1) n).map .list
      | .mapping => (entriesOf inner (level + 1) n).map .mapping
      | .set => (entriesOf inner (level + 1) n).map fun entries => .set (entries.map (·.1))
      | .orderedMap | .pairs => (pairsOf inner (level + 1) n).map .pairs
      | .other name => .fail level (.unknownTag name)
      | tag =>
        match n.scalarText? with
        | none => .fail level .wrongKind
        | some text =>
          match Scalar.read? tag text with
          | .ok (some d) => .ok d
          | .ok none => .fail level .wrongKind
          | .error f => .error ⟨level, f⟩

end Node

/-- The data that a text holds; an empty text holds nothing. -/
def read (text : String) : Except Fault Data :=
  match Node.ofText? text with
  | .error f => .error f
  | .ok none => .ok .null
  | .ok (some n) =>
    match n.build n.height 0 with
    | .ok d => .ok d
    | .error f => .error f.fault

end Inlay.Yaml
