import Inlay.Text.Case

/-!
# Comparing characters without regard to case

Code points are brought to a simple lower case, one for one. A few lower-case
letters that share their capital (`s` and the long `ſ`) still differ then; they
are listed as relatives of each other.
-/

namespace Inlay.Text

/-- The character of a code point, if it has one. -/
def charOf? (code : Nat) : Option Char :=
  if code.isValidChar then some (Char.ofNat code) else none

/-- The simple lower case of a code point. -/
def lowerCode (code : Nat) : Nat :=
  if code = 0x130 then 0x69
  else
    match charOf? code with
    | none => code
    | some c => ((CaseRun.image? lowerRuns c).getD c).toNat

/-- The upper case of a code point, or the first character of it. -/
def upperCode (code : Nat) : Nat :=
  match charOf? code with
  | none => code
  | some c => ((upperOf c).headD c).toNat

/-- The code points whose simple lower case is a given one. -/
def lowerSources (code : Nat) : List Nat :=
  let sources := lowerRuns.toList.filterMap fun run =>
    let source := (code : Int) - run.shift
    if (run.first : Int) ≤ source ∧ source ≤ run.last ∧
        (source.toNat - run.first) % run.step = 0 then some source.toNat
    else none
  (if code = 0x69 then [0x130] else []) ++
    (if lowerCode code = code then [code] else []) ++ sources

/-- The families of lower-case letters that share their capital. -/
def relativeFamilies : List (List Nat) :=
  [[0x69, 0x131], [0x73, 0x17F], [0xB5, 0x3BC], [0x345, 0x3B9, 0x1FBE], [0x390, 0x1FD3],
   [0x3B0, 0x1FE3], [0x3B2, 0x3D0], [0x3B5, 0x3F5], [0x3B8, 0x3D1], [0x3BA, 0x3F0],
   [0x3C0, 0x3D6], [0x3C1, 0x3F1], [0x3C2, 0x3C3], [0x3C6, 0x3D5], [0x432, 0x1C80],
   [0x434, 0x1C81], [0x43E, 0x1C82], [0x441, 0x1C83], [0x442, 0x1C84, 0x1C85],
   [0x44A, 0x1C86], [0x463, 0x1C87], [0x1C88, 0xA64B], [0x1E61, 0x1E9B], [0xFB05, 0xFB06]]

/-- The other members of a letter's family. -/
def relatives (code : Nat) : List Nat :=
  match relativeFamilies.find? (·.contains code) with
  | some family => family.filter (· != code)
  | none => []

end Inlay.Text
