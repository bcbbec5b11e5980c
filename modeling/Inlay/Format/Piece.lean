import Inlay.Format.Spec

/-!
# The pieces of a format text

A format text is cut into literal text, in which a doubled brace stands for
one brace, and fields in braces. A field has a name, which is empty or a
number, and perhaps a specification after a colon.
-/

namespace Inlay.Format

/-- A field as it is written. -/
structure Field where
  name : List Char
  conversion : Option Char
  specification : List Char
  deriving DecidableEq, Repr

/-- A piece of a format text. -/
inductive Piece where
  | literal (cs : List Char)
  | field (f : Field)
  deriving DecidableEq, Repr

/-- What ends a field's name. -/
inductive NameEnd where
  | closing
  | colon
  | bang
  deriving DecidableEq, Repr

/-- Reads a field's name up to its end. What stands in square brackets belongs
to the name; `inside` says whether one is open. -/
def readName (inside : Bool) (name : List Char) :
    List Char → Except Fault (List Char × NameEnd × List Char)
  | [] => .error .fieldOpen
  | c :: rest =>
    if inside then readName (c != ']') (c :: name) rest
    else if c = '\x7b' then .error .openingInName
    else if c = '\x7d' then .ok (name.reverse, .closing, rest)
    else if c = ':' then .ok (name.reverse, .colon, rest)
    else if c = '!' then .ok (name.reverse, .bang, rest)
    else readName (c = '[') (c :: name) rest

/-- Reads a specification up to the brace that closes its field; `depth` braces
are open within it. -/
def readSpecification (depth : Nat) (spec : List Char) :
    List Char → Except Fault (List Char × List Char)
  | [] => .error .specificationOpen
  | c :: rest =>
    if c = '\x7b' then readSpecification (depth + 1) (c :: spec) rest
    else if c = '\x7d' then
      match depth with
      | 0 => .ok (spec.reverse, rest)
      | d + 1 => readSpecification d (c :: spec) rest
    else readSpecification depth (c :: spec) rest

/-- Reads a field after its opening brace. -/
def readField (cs : List Char) : Except Fault (Field × List Char) := do
  let (name, ending, rest) ← readName false [] cs
  let conversion (c : Char) : Option Char := if c = '\x00' then none else some c
  match ending, rest with
  | .closing, rest => return (⟨name, none, []⟩, rest)
  | .colon, rest =>
    let (spec, rest) ← readSpecification 0 [] rest
    return (⟨name, none, spec⟩, rest)
  | .bang, [] => throw .conversionMissing
  | .bang, [_] => throw .specificationOpen
  | .bang, c :: d :: rest =>
    if d = '\x7d' then return (⟨name, conversion c, []⟩, rest)
    else if d = ':' then
      let (spec, rest) ← readSpecification 0 [] rest
      return (⟨name, conversion c, spec⟩, rest)
    else throw .colonMissing

/-- The fields that can be filled: their names are empty or digits, and they
have neither a conversion nor fields inside. -/
def Field.check (f : Field) : Except Fault Unit :=
  if !f.name.isEmpty && !f.name.all Text.isDigit then .error (.unsupportedField f.name)
  else match f.conversion with
    | some c => .error (.unsupportedConversion c)
    | none => if f.specification.contains '\x7b' then .error .nestedField else .ok ()

/-- Cuts a format text into pieces; `steps` bounds their number. -/
def cut : Nat → List Char → Except Fault (List Piece)
  | 0, _ => .ok []
  | _, [] => .ok []
  | steps + 1, c :: rest =>
    if c = '\x7b' then
      match rest with
      | [] => .error .loneOpening
      | d :: more =>
        if d = '\x7b' then return .literal ['\x7b'] :: (← cut steps more)
        else do
          let (f, after) ← readField rest
          f.check
          return .field f :: (← cut steps after)
    else if c = '\x7d' then
      match rest with
      | '\x7d' :: more => return .literal ['\x7d'] :: (← cut steps more)
      | _ => .error .loneClosing
    else
      let plain := rest.takeWhile fun d => d != '\x7b' && d != '\x7d'
      return .literal (c :: plain) :: (← cut steps (rest.drop plain.length))

def pieces (text : String) : Except Fault (List Piece) :=
  let cs := text.toList
  cut cs.length cs

end Inlay.Format
