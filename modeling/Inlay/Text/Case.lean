import Inlay.Text.CaseTable
import Inlay.Text.Ranges

/-!
# Upper and lower case

Full case mapping: one character may become several (`ß` becomes `SS`), and a
capital sigma becomes a final sigma at the end of a word.
-/

namespace Inlay.Text

/-- Every `step`-th code point from `first` to `last` maps `shift` onwards. -/
structure CaseRun where
  first : Nat
  last : Nat
  step : Nat
  shift : Int

namespace CaseRun

/-- A signed decimal number in a table. -/
def readShift (cs : List Char) : Int :=
  let size (ds : List Char) : Nat := ds.foldl (fun n c => 10 * n + (c.toNat - 0x30)) 0
  match cs with
  | '-' :: ds => -(size ds : Int)
  | ds => size ds

/-- Reads `first-last/step:shift` or `first:shift`. -/
def read (word : List Char) : CaseRun :=
  match cutAt (fun c => c == '-' || c == '/') (word.takeWhile (· != ':')) with
  | [first, last, step] =>
    ⟨hexNumber first, hexNumber last, hexNumber step,
      readShift ((word.dropWhile (· != ':')).drop 1)⟩
  | parts =>
    let code := hexNumber (parts.headD [])
    ⟨code, code, 1, readShift ((word.dropWhile (· != ':')).drop 1)⟩

/-- Halves the table until the run that may hold the code point is found. -/
def search (runs : Array CaseRun) (n : Nat) : Nat → Nat → Nat → Option CaseRun
  | 0, _, _ => none
  | steps + 1, low, high =>
    if low < high then
      let middle := (low + high) / 2
      match runs[middle]? with
      | none => none
      | some run =>
        if n < run.first then search runs n steps low middle
        else if run.last < n then search runs n steps (middle + 1) high
        else some run
    else none

/-- The image of a character under a table of runs. -/
def image? (runs : Array CaseRun) (c : Char) : Option Char :=
  match search runs c.toNat 32 0 runs.size with
  | some run =>
    if (c.toNat - run.first) % run.step = 0 then
      some (Char.ofNat ((c.toNat : Int) + run.shift).toNat)
    else none
  | none => none

end CaseRun

def upperRuns : Array CaseRun := ((tableWords upperRows).map CaseRun.read).toArray

def lowerRuns : Array CaseRun := ((tableWords lowerRows).map CaseRun.read).toArray

/-- The characters whose upper case is several characters. -/
def upperMany : List (Nat × List Char) :=
  (tableWords upperManyRows).map fun word =>
    (hexNumber (word.takeWhile (· != ':')),
      (cutAt (· == '+') ((word.dropWhile (· != ':')).drop 1)).map fun code =>
        Char.ofNat (hexNumber code))

def casedRanges : Ranges := Ranges.ofRows casedRows

def caseIgnorableRanges : Ranges := Ranges.ofRows caseIgnorableRows

def upperOf (c : Char) : List Char :=
  match CaseRun.image? upperRuns c with
  | some u => [u]
  | none => if c.toNat < 128 then [c] else (upperMany.lookup c.toNat).getD [c]

/-- The lower case of one character, sigma at a word's end aside. -/
def lowerOf (c : Char) : List Char :=
  if c.toNat = 0x130 then ['i', Char.ofNat 0x307]
  else [(CaseRun.image? lowerRuns c).getD c]

/-- Whether the first character that is not passed over has case. -/
def startsCased (cs : List Char) : Bool :=
  match cs.dropWhile caseIgnorableRanges.contains with
  | [] => false
  | c :: _ => casedRanges.contains c

/-- Lower case of the text `cs` that follows `before` (nearest first). -/
def lowerFrom (before : List Char) : List Char → List Char
  | [] => []
  | c :: rest =>
    let image :=
      if c.toNat = 0x3A3 then
        if startsCased before && !startsCased rest then [Char.ofNat 0x3C2]
        else [Char.ofNat 0x3C3]
      else lowerOf c
    image ++ lowerFrom (c :: before) rest

def upper (s : String) : String := String.ofList (s.toList.flatMap upperOf)

def lower (s : String) : String := String.ofList (lowerFrom [] s.toList)

end Inlay.Text
