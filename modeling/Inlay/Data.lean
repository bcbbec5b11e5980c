import Inlay.Number.Binary64
import Inlay.Yaml.Moment

/-!
# Structured data

What files and environment variables hold: scalars, and collections of them.
Mappings keep the order in which their keys were first met. Numbers and Booleans
of one value are one key, as they are in a host's own dictionaries.
-/

namespace Inlay

/-- A piece of data. -/
inductive Data where
  | null
  | boolean (b : Bool)
  | integer (n : Int)
  | float (x : Binary64)
  | text (s : String)
  | bytes (bs : List UInt8)
  | moment (m : Yaml.Moment)
  | list (items : List Data)
  /-- A list of entries. -/
  | pairs (entries : List (Data × Data))
  | set (items : List Data)
  | mapping (entries : List (Data × Data))
  /-- A collection, seen from within itself. -/
  | enclosing (isMapping : Bool)
  deriving Repr

namespace Data

def typeName : Data → String
  | null => "NoneType"
  | boolean _ => "bool"
  | integer _ => "int"
  | float _ => "float"
  | text _ => "str"
  | bytes _ => "bytes"
  | moment m => if m.clock?.isSome then "datetime" else "date"
  | list _ => "list"
  | pairs _ => "list"
  | set _ => "set"
  | mapping _ => "dict"
  | enclosing isMapping => if isMapping then "dict" else "list"

/-! ## Keys -/

/-- Only scalars can be keys. -/
def isScalar : Data → Bool
  | list _ => false
  | pairs _ => false
  | set _ => false
  | mapping _ => false
  | enclosing _ => false
  | _ => true

/-- The exact place of a number or a Boolean among the numbers. -/
def position? : Data → Option Binary64.Position
  | boolean b => some (.ofInt (if b then 1 else 0))
  | integer n => some (.ofInt n)
  | float x => x.position?
  | _ => none

/-- Whether two scalars are one key. A not-a-number is the same key as itself. -/
def sameKey : Data → Data → Bool
  | null, null => true
  | text s, text t => s == t
  | bytes s, bytes t => s == t
  | moment m, moment n => m.same n
  | float x, float y => x.same y
  | a, b =>
    match a.position?, b.position? with
    | some p, some q => p == q
    | _, _ => false

/-- Sets the value of a key: in its old place if the key is there, at the end
otherwise. -/
def put (k v : Data) : List (Data × Data) → List (Data × Data)
  | [] => [(k, v)]
  | (l, w) :: rest => if sameKey l k then (l, v) :: rest else (l, w) :: put k v rest

/-- The entries that are left when each key has its last value, in the order in
which keys come first. -/
def distinct (entries : List (Data × Data)) : List (Data × Data) :=
  entries.foldl (fun done (k, v) => put k v done) []

/-- The value of a key. -/
def find? (entries : List (Data × Data)) (k : Data) : Option Data :=
  (entries.find? fun (l, _) => sameKey l k).map (·.2)

def get? : Data → String → Option Data
  | mapping entries, name => find? entries (text name)
  | _, _ => none

end Data

end Inlay
