import Inlay.Value.Key

/-!
# Dictionaries

The entries of a dictionary stand in the order in which their keys were first
given. When a key is given again, the first key stays and the last value
wins. Looking up a key of any type never confuses it with one of another.
-/

namespace Inlay

namespace Dictionary

/-- The entries of a dictionary. -/
abbrev Entries := List (Value × Value)

/-- Puts a value under a key, where `same` tells keys apart: an entry that has
the key keeps its place and its key, otherwise the entry is the last. -/
def put (same : Value → Value → Bool) (key value : Value) : Entries → Entries
  | [] => [(key, value)]
  | (k, v) :: rest =>
    if same k key then (k, value) :: rest else (k, v) :: put same key value rest

def putAll (same : Value → Value → Bool) (entries : Entries) : Entries :=
  entries.foldl (fun d (k, v) => put same k v d) []

/-- The dictionary of the given entries; a value that cannot be a key is a
fault. -/
def ofEntries (entries : Entries) : Except KeyFault Entries :=
  match Value.firstKeyFault? (entries.map Prod.fst) with
  | some fault => .error fault
  | none => .ok (putAll Value.sameKey entries)

def hostEntries (entries : Entries) : Except KeyFault Entries :=
  match Value.firstHashFault? (entries.map Prod.fst) with
  | some fault => .error fault
  | none => .ok (putAll Value.hashEqual entries)

def found? (entries : Entries) (key : Value) : Option (Value × Value) :=
  entries.find? fun (k, _) => k.sameKey key

def get? (entries : Entries) (key : Value) : Option Value :=
  (found? entries key).map Prod.snd

/-- The entry of a host's dictionary that holds a key of the same type. -/
def hostFound? (entries : Entries) (key : Value) : Option (Value × Value) :=
  entries.find? fun (k, _) => k.looselyEqual key && k.sameKey key

/-- Looks a key up in a dictionary of either representation: the value, none if
no entry has a key of the same type equal to it, or the fault that keeps it
from being a key. -/
def lookup (origin : Origin) (entries : Entries) (key : Value) :
    Except KeyFault (Option Value) :=
  match key.keyFault? with
  | some fault => .error fault
  | none =>
    match origin with
    | .template => .ok (get? entries key)
    | .host => .ok ((hostFound? entries key).map Prod.snd)

/-- Looks up a name, in a host's dictionary as the host itself does. -/
def getName? (origin : Origin) (entries : Entries) (name : String) : Option Value :=
  match origin with
  | .template => get? entries (.string name)
  | .host => (entries.find? fun (k, _) => k.hashEqual (.string name)).map Prod.snd

end Dictionary

end Inlay
