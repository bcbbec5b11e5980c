import Inlay.Data
import Inlay.Text.Base64
import Inlay.Text.Blank
import Inlay.Text.Case
import Inlay.Yaml.Implicit

/-!
# What scalars stand for

The data that a text stands for under a tag. A tag may be written before any
text, so each of them may refuse it.
-/

namespace Inlay.Yaml.Scalar

/-- A number without its underscores: its sign, and the rest. -/
def splitNumber (text : String) : Except Fault (Bool × List Char) :=
  match text.toList.filter (· != '_') with
  | [] => .error .emptyNumeral
  | cs => .ok (Numeral.splitSign cs)

def digitValue? (c : Char) : Option Nat :=
  match Text.decimalValue? c with
  | some d => some d
  | none => Text.hexDigit? c

/-- The number that digits spell in a base, if all are digits of it. -/
def digitsIn? (base : Nat) (cs : List Char) : Option Nat :=
  if cs.isEmpty then none
  else cs.foldlM (fun n c => do
    let d ← digitValue? c
    if d < base then some (base * n + d) else none) 0

/-- A mark that a number in a base may start with. -/
def baseMarks (base : Nat) : List (List Char) :=
  match base with
  | 2 => [['0', 'b'], ['0', 'B']]
  | 8 => [['0', 'o'], ['0', 'O']]
  | 16 => [['0', 'x'], ['0', 'X']]
  | _ => []

/-- Reads an integer in a base: blanks, a sign and the mark of the base may come
before the digits. -/
def readInBase (base : Nat) (cs : List Char) : Except Fault Int :=
  let (negative, body) := Numeral.splitSign (Text.trim cs)
  let digits := match (baseMarks base).find? (·.isPrefixOf body) with
    | some mark => body.drop mark.length
    | none => body
  match digitsIn? base digits with
  | some n => .ok (if negative then -n else n)
  | none => .error (.notInteger base (String.ofList cs))

/-- Reads an integer in base ten. -/
def readDecimal (cs : List Char) : Except Fault Int :=
  match Numeral.readInteger (Text.trim cs) with
  | .ok n => .ok n
  | .error (.tooLong digits) => .error (.numeralTooLong digits)
  | .error .malformed => .error (.notInteger 10 (String.ofList cs))

def readInteger (text : String) : Except Fault Int := do
  let (negative, body) ← splitNumber text
  let size ← match body with
    | [] => throw .emptyNumeral
    | ['0'] => pure 0
    | '0' :: 'b' :: digits => readInBase 2 digits
    | '0' :: 'x' :: digits => readInBase 16 digits
    | '0' :: _ => readInBase 8 body
    | _ =>
      if body.contains ':' then do
        let parts ← (Text.cutAt (· == ':') body).mapM readDecimal
        pure (parts.foldl (fun n part => 60 * n + part) 0)
      else readDecimal body
  return if negative then -size else size

def readPlainFloat (cs : List Char) : Except Fault Binary64 :=
  match Numeral.readFloat? 0 (Text.trim cs) with
  | some x => .ok x
  | none => .error (.notFloat (String.ofList cs))

/-- The sum of parts in base sixty, the last one first. -/
def sumSixtieths (parts : List Binary64) : Except Fault Binary64 := do
  let (sum, _) ← parts.foldlM (fun (sum, base) x => do
    let weight := Binary64.ofInt base
    if !weight.isFinite then throw .placeTooHigh
    return (Binary64.add 0 sum (Binary64.mul 0 x weight), 60 * base))
    (Binary64.zero false, (1 : Int))
  return sum

/-- The floating-point number that a text stands for. -/
def readFloat (text : String) : Except Fault Binary64 := do
  let (negative, body) ← splitNumber (Text.lower text)
  if body.isEmpty then throw .emptyNumeral
  if body = ".nan".toList then return .nan 0
  let size ←
    if body = ".inf".toList then pure (.infinite false)
    else if body.contains ':' then do
      let parts ← (Text.cutAt (· == ':') body).mapM readPlainFloat
      sumSixtieths parts.reverse
    else readPlainFloat body
  return if negative then size.neg else size

def readBoolean (text : String) : Except Fault Bool :=
  let word := Text.lower text
  match Implicit.booleanWords.lookup word with
  | some b => .ok b
  | none => .error (.notBoolean word)

def readBytes (text : String) : Except Fault (List UInt8) :=
  if text.toList.any (0x80 ≤ ·.toNat) then .error (.malformed .badBase64)
  else
    match Text.Base64.decode? text with
    | some bytes => .ok bytes
    | none => .error (.malformed .badBase64)

/-- The data that a text stands for under a tag; none if the tag is one of
collections. -/
def read? (tag : Tag) (text : String) : Except Fault (Option Data) :=
  match tag with
  | .null => .ok (some .null)
  | .boolean => (readBoolean text).map (some ∘ .boolean)
  | .integer => (readInteger text).map (some ∘ .integer)
  | .float => (readFloat text).map (some ∘ .float)
  | .binary => (readBytes text).map (some ∘ .bytes)
  | .moment =>
    let cs := text.toList
    let cs := if cs.getLast? = some '\n' then cs.dropLast else cs
    (Moment.ofText cs).map (some ∘ .moment)
  | .text => .ok (some (.text text))
  | .merge => .error (.malformed (.unknownTag (Tag.standardStart ++ "merge")))
  | .value => .error (.malformed (.unknownTag (Tag.standardStart ++ "value")))
  | .other name => .error (.malformed (.unknownTag name))
  | _ => .ok none

end Inlay.Yaml.Scalar
