import Inlay.Data
import Inlay.Number.Display
import Inlay.Number.Reading

/-!
# Data in messages

A text stands for itself, nothing is `None`, and Booleans are capitalised.
Inside collections texts are quoted and points in time are spelled out.
-/

namespace Inlay.Data

/-- Bytes between quotes; those that are no plain ASCII are escaped. -/
def bytesText (bs : List UInt8) : String :=
  let cs := bs.map fun b => Char.ofNat b.toNat
  let quote := Text.quoteFor cs
  let shown (c : Char) : List Char :=
    if c.toNat < 0x80 then Text.quotedChar quote c else '\\' :: 'x' :: Text.hexDigits 2 c.toNat
  String.ofList ('b' :: quote :: (cs.flatMap shown ++ [quote]))

mutual

/-- Data inside a collection. -/
def fullText : Data → String
  | null => "None"
  | boolean b => if b then "True" else "False"
  | integer n => integerText n
  | float x => x.text
  | text s => Text.quoted s
  | bytes bs => bytesText bs
  | moment m => m.representation
  | list items => "[" ++ ", ".intercalate (fullTexts items) ++ "]"
  | pairs entries => "[" ++ ", ".intercalate (pairTexts entries) ++ "]"
  | set [] => "set()"
  | set items => "\x7b" ++ ", ".intercalate (fullTexts items) ++ "\x7d"
  | mapping entries => "\x7b" ++ ", ".intercalate (entryTexts entries) ++ "\x7d"
  | enclosing isMapping => if isMapping then "\x7b...\x7d" else "[...]"

def fullTexts : List Data → List String
  | [] => []
  | d :: rest => fullText d :: fullTexts rest

def pairTexts : List (Data × Data) → List String
  | [] => []
  | (k, v) :: rest => ("(" ++ fullText k ++ ", " ++ fullText v ++ ")") :: pairTexts rest

def entryTexts : List (Data × Data) → List String
  | [] => []
  | (k, v) :: rest => (fullText k ++ ": " ++ fullText v) :: entryTexts rest

end

mutual

/-- Whether no integer in data has more digits than are written. -/
def isWritable : Data → Bool
  | integer n => n.natAbs < Nat.pow 10 Numeral.digitLimit
  | list items => areWritable items
  | set items => areWritable items
  | pairs entries => entriesWritable entries
  | mapping entries => entriesWritable entries
  | _ => true

def areWritable : List Data → Bool
  | [] => true
  | d :: rest => isWritable d && areWritable rest

def entriesWritable : List (Data × Data) → Bool
  | [] => true
  | (k, v) :: rest => isWritable k && isWritable v && entriesWritable rest

end

def plainText : Data → String
  | text s => s
  | moment m => m.text
  | d => d.fullText

end Inlay.Data
