import Inlay.FilePath
import Inlay.Time.Fault
import Inlay.Time.Zone
import Inlay.Time.Zones.Africa
import Inlay.Time.Zones.America
import Inlay.Time.Zones.Asia
import Inlay.Time.Zones.Europe
import Inlay.Time.Zones.General
import Inlay.Time.Zones.Oceans

/-!
# Finding time zones

A zone has keys such as `Europe/Berlin`. A key is written like a path below the
directory of all zones: relative, in its shortest form, and without leaving
that directory.
-/

namespace Inlay.Time.Zones

def records : List (List String) :=
  africaRecords ++ americaRecords ++ asiaRecords ++ europeRecords ++ generalRecords ++
    oceansRecords

def keysOf (record : List String) : List (List Char) :=
  Text.cutAt (· == ',') ((record.headD "").toList.takeWhile (· != ' '))

/-- Whether a key is in its shortest form. -/
def isNormal (key : List Char) : Bool :=
  key.length == (FilePath.resolved (FilePath.parts key)).length

/-- Whether a key leads to something below the directory of all zones. -/
def staysInside (key : List Char) : Bool :=
  match FilePath.resolveParts (['_'] :: FilePath.parts key) with
  | first :: _ :: _ => first == ['_']
  | _ => false

def find (key : String) : Except Fault Zone :=
  let cs := key.toList
  if cs.head? = some '/' then .error (.absoluteKey key)
  else if !isNormal cs then .error (.unnormalizedKey key)
  else if !staysInside cs then .error (.escapingKey key)
  else
    match records.find? fun record => (keysOf record).contains cs with
    | some record => .ok (Zone.read ((Text.tableWords record).drop 1))
    | none => .error (.unknownZone key)

end Inlay.Time.Zones
