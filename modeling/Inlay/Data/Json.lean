import Inlay.Data.Display
import Inlay.Json

/-!
# Data and JSON

Every JSON document is data. Data that the format does not know is written as a
string that shows it in full; keys are written as strings.
-/

namespace Inlay.Data

mutual

def ofJson : Json → Data
  | .null => null
  | .boolean b => boolean b
  | .integer n => integer n
  | .float x => float x
  | .string s => text s
  | .array elements => list (ofElements elements)
  | .object members => mapping (ofMembers members)

def ofElements : List Json → List Data
  | [] => []
  | j :: rest => ofJson j :: ofElements rest

def ofMembers : List (String × Json) → List (Data × Data)
  | [] => []
  | (name, j) :: rest => (text name, ofJson j) :: ofMembers rest

end

def keyText : Data → String
  | null => "null"
  | boolean b => if b then "true" else "false"
  | d => d.plainText

mutual

def toJson : Data → Json
  | null => .null
  | boolean b => .boolean b
  | integer n => .integer n
  | float x => .float x
  | text s => .string s
  | list items => .array (toElements items)
  | pairs entries => .array (toPairs entries)
  | mapping entries => .object (toMembers entries)
  | d => .string d.fullText

def toElements : List Data → List Json
  | [] => []
  | d :: rest => toJson d :: toElements rest

def toPairs : List (Data × Data) → List Json
  | [] => []
  | (k, v) :: rest => .array [toJson k, toJson v] :: toPairs rest

def toMembers : List (Data × Data) → List (String × Json)
  | [] => []
  | (k, v) :: rest => (keyText k, toJson v) :: toMembers rest

end

end Inlay.Data
