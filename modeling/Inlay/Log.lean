import Inlay.Data.Json

/-!
# Log records

A record has a level, the name of a logger, an event and named fields. It is
written as a JSON object, or as a line for people: the level, the event and the
logger in columns, then the fields in the order of their names.

What is bound to the whole program comes before what a record has of its own,
and of two fields of one name the later one counts. The event, the level, the
logger and the time count more than fields of their names.
-/

namespace Inlay.Log

/-- How serious a record is. -/
inductive Level where
  | debug
  | info
  | warning
  | error
  | critical
  deriving DecidableEq, Repr

namespace Level

def name : Level → String
  | debug => "debug"
  | info => "info"
  | warning => "warning"
  | error => "error"
  | critical => "critical"

/-- The number of a level; a threshold lets through what reaches it. -/
def rank : Level → Int
  | debug => 10
  | info => 20
  | warning => 30
  | error => 40
  | critical => 50

def all : List Level := [debug, info, warning, error, critical]

def ofName? (s : String) : Option Level := all.find? fun l => l.name == s

end Level

/-- Named data. -/
abbrev Fields := List (String × Data)

/-- Sets a field, in its old place if there is one. -/
def put (name : String) (d : Data) : Fields → Fields
  | [] => [(name, d)]
  | (n, e) :: rest => if n = name then (n, d) :: rest else (n, e) :: put name d rest

def overlay (below above : Fields) : Fields :=
  above.foldl (fun fields (name, d) => put name d fields) below

/-- A record. -/
structure Record where
  level : Level
  logger : String
  event : String
  fields : Fields
  deriving Repr

namespace Record

/-- A record with what is bound to the program. -/
def within (context : Fields) (r : Record) : Record :=
  { r with fields := overlay context r.fields }

def ownFields (r : Record) : Fields :=
  (overlay [] r.fields).filter fun (name, _) =>
    !(["event", "level", "logger", "timestamp"].contains name)

def toJson (r : Record) : Json :=
  .object (r.ownFields.map (fun (name, d) => (name, d.toJson)) ++
    [("event", .string r.event), ("level", .string r.level.name),
      ("logger", .string r.logger)])

/-- A text filled up with spaces to a width. -/
def padRight (width : Nat) (s : String) : String :=
  s ++ String.ofList (List.replicate (width - s.length) ' ')

def levelWidth : Nat := 9

def eventWidth : Nat := 30

/-- Whether a string is shown in quotes because it could be mistaken. -/
def needsQuotes (s : String) : Bool :=
  s.toList.any fun c => [' ', '\t', '=', '\r', '\n', '"', '\''].contains c

def fieldText : Data → String
  | .text s => if needsQuotes s then Text.quoted s else s
  | d => d.fullText

def sortedFields (r : Record) : Fields :=
  r.ownFields.mergeSort fun a b => decide (a.1 ≤ b.1)

/-- A record as a line; `named` says whether the logger is shown. -/
def line (named : Bool) (r : Record) : String :=
  let logger := if named then ["[" ++ r.logger ++ "]"] else []
  " ".intercalate
    (["[" ++ padRight levelWidth r.level.name ++ "]", padRight eventWidth r.event] ++ logger ++
      r.sortedFields.map fun (name, d) => name ++ "=" ++ fieldText d)

end Record

end Inlay.Log
