import Inlay.Format.Number
import Inlay.Format.Piece

/-!
# Filling format texts

The fields of a format text take arguments, either in turn or by number but
not both, and show them under their specifications.
-/

namespace Inlay.Format

/-- An argument of a format text. -/
inductive Argument where
  | text (s : String)
  | integer (n : Int)
  | float (x : Binary64)
  deriving Repr

/-- The letters that write a number in a form of floating-point numbers. -/
def floatPresentations : List Char := ['e', 'E', 'f', 'F', 'g', 'G', '%']

namespace Argument

/-- An argument as it is shown when nothing is specified. -/
def plain : Argument → List Char
  | text s => s.toList
  | integer n => (integerText n).toList
  | float x => x.text.toList

def showText (specification : List Char) (s : String) : Except Fault (List Char) := do
  let spec ← Spec.read .text specification
  if spec.presentation ≠ 's' then throw (.unknownPresentation spec.presentation "str")
  match spec.sign with
  | some .space => throw .spaceOnText
  | some _ => throw .signOnText
  | none => pure ()
  if spec.coerceZero then throw .zeroCoercionOnText
  if spec.alternate then throw .alternateOnText
  if spec.alignment = .afterSign then throw .afterSignOnText
  return layText spec s.toList

/-- An integer under a specification; some presentations turn it into a
floating-point number first. -/
def showInteger (specification : List Char) (n : Int) : Except Fault (List Char) := do
  let spec ← Spec.read .integer specification
  if ['b', 'c', 'd', 'o', 'x', 'X', 'n'].contains spec.presentation then layInteger spec n
  else if floatPresentations.contains spec.presentation then
    let x := Binary64.ofInt n
    if x.isFinite then layFloat spec x else throw .integerTooLarge
  else throw (.unknownPresentation spec.presentation "int")

/-- A floating-point number under a specification. -/
def showFloat (specification : List Char) (x : Binary64) : Except Fault (List Char) := do
  let spec ← Spec.read .float specification
  if '\x00' = spec.presentation ∨ 'n' = spec.presentation ∨
      floatPresentations.contains spec.presentation then layFloat spec x
  else throw (.unknownPresentation spec.presentation "float")

def «show» (specification : List Char) (a : Argument) : Except Fault (List Char) :=
  if specification.isEmpty then .ok a.plain
  else match a with
    | text s => showText specification s
    | integer n => showInteger specification n
    | float x => showFloat specification x

end Argument

/-- How the fields seen so far choose their arguments. -/
inductive Numbering where
  | undecided
  | automatic (next : Nat)
  | numbered
  deriving DecidableEq, Repr

/-- The number that a field's name spells. A name with a digit that is not
decimal is a key, and there are no keys. -/
def readIndex (number : Nat) : List Char → Except Fault (Option Nat)
  | [] => .ok (some number)
  | c :: rest =>
    match Text.decimalValue? c with
    | none => .ok none
    | some d =>
      if (Spec.countLimit - d) / 10 < number then .error .tooManyDigits
      else readIndex (10 * number + d) rest

/-- The index of a field's argument, and the numbering after it. -/
def choose (numbering : Numbering) (name : List Char) : Except Fault (Nat × Numbering) := do
  if name.isEmpty then
    match numbering with
    | .undecided => return (0, .automatic 1)
    | .automatic next => return (next, .automatic (next + 1))
    | .numbered => throw .automaticAfterNumbered
  else
    match ← readIndex 0 name with
    | none => throw (.unknownKey name)
    | some index =>
      match numbering with
      | .automatic _ => throw .numberedAfterAutomatic
      | _ => return (index, .numbered)

def fillPieces (arguments : List Argument) : Numbering → List Piece → Except Fault (List Char)
  | _, [] => .ok []
  | numbering, .literal cs :: rest => do
    return cs ++ (← fillPieces arguments numbering rest)
  | numbering, .field f :: rest => do
    let (index, numbering) ← choose numbering f.name
    match arguments[index]? with
    | none => throw (.missingArgument index)
    | some a =>
      let shown ← a.show f.specification
      return shown ++ (← fillPieces arguments numbering rest)

/-- A format text with its fields filled. The text is checked as a whole before
any field is. -/
def fill (text : String) (arguments : List Argument) : Except Fault String := do
  let parts ← pieces text
  return String.ofList (← fillPieces arguments .undecided parts)

end Inlay.Format
