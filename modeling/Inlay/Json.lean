import Inlay.Number.Display
import Inlay.Number.Reading
import Inlay.Text.Quoted
import Inlay.Text.Ranges

/-!
# JSON

Documents of the JSON format, their reader and their printer. Objects keep the
order of their members. Integers and other numbers are told apart by the
presence of a fraction or an exponent, and the words `NaN`, `Infinity` and
`-Infinity` are read as numbers.
-/

namespace Inlay

/-- A document. -/
inductive Json where
  | null
  | boolean (b : Bool)
  | integer (n : Int)
  | float (x : Binary64)
  | string (s : String)
  | array (elements : List Json)
  | object (members : List (String × Json))
  deriving Repr, Inhabited

namespace Json

/-! ## Printing -/

/-- One character of a string, escaped unless it is plain ASCII. -/
def escapedChar (c : Char) : List Char :=
  if c = '"' then ['\\', '"']
  else if c = '\\' then ['\\', '\\']
  else if c = '\n' then ['\\', 'n']
  else if c = '\r' then ['\\', 'r']
  else if c = '\t' then ['\\', 't']
  else if c.toNat = 8 then ['\\', 'b']
  else if c.toNat = 12 then ['\\', 'f']
  else if 0x20 ≤ c.toNat ∧ c.toNat < 0x7F then [c]
  else if c.toNat < 0x10000 then '\\' :: 'u' :: Text.hexDigits 4 c.toNat
  else
    let offset := c.toNat - 0x10000
    '\\' :: 'u' :: (Text.hexDigits 4 (0xD800 + offset / 0x400) ++
      '\\' :: 'u' :: Text.hexDigits 4 (0xDC00 + offset % 0x400))

def quote (s : String) : String :=
  String.ofList ('"' :: (s.toList.flatMap escapedChar ++ ['"']))

/-- The text of a number that is no integer. -/
def floatText (x : Binary64) : String :=
  match x with
  | .nan _ => "NaN"
  | .infinite negative => if negative then "-Infinity" else "Infinity"
  | x => x.text

mutual

/-- The text of a document, on one line. -/
def render : Json → String
  | null => "null"
  | boolean b => if b then "true" else "false"
  | integer n => integerText n
  | float x => floatText x
  | string s => quote s
  | array elements => "[" ++ ", ".intercalate (renderAll elements) ++ "]"
  | object members => "\x7b" ++ ", ".intercalate (renderMembers members) ++ "\x7d"

def renderAll : List Json → List String
  | [] => []
  | j :: rest => render j :: renderAll rest

def renderMembers : List (String × Json) → List String
  | [] => []
  | (name, j) :: rest => (quote name ++ ": " ++ render j) :: renderMembers rest

end

/-! ## Reading -/

def isBlank (c : Char) : Bool := c == ' ' || c == '\t' || c == '\n' || c == '\r'

/-- The text after its leading blanks. -/
def skipBlanks (cs : List Char) : List Char := cs.dropWhile isBlank

/-- The number that four hexadecimal digits at the head of a text spell. -/
def readUnit? : List Char → Option (Nat × List Char)
  | a :: b :: c :: d :: rest =>
    match Text.hexDigit? a, Text.hexDigit? b, Text.hexDigit? c, Text.hexDigit? d with
    | some w, some x, some y, some z => some (((w * 16 + x) * 16 + y) * 16 + z, rest)
    | _, _, _, _ => none
  | _ => none

/-- The character of an escape of one letter. -/
def simpleEscape? : Char → Option Char
  | '"' => some '"'
  | '\\' => some '\\'
  | '/' => some '/'
  | 'b' => some (Char.ofNat 8)
  | 'f' => some (Char.ofNat 12)
  | 'n' => some '\n'
  | 'r' => some '\r'
  | 't' => some '\t'
  | _ => none

/-- Reads the rest of a string and its closing quote; `seen` holds what has been
read, last first. Two escapes that form a pair stand for one character. -/
def readString? : Nat → (seen : List Char) → List Char → Option (String × List Char)
  | 0, _, _ => none
  | _, _, [] => none
  | steps + 1, seen, c :: rest =>
    if c = '"' then some (String.ofList seen.reverse, rest)
    else if c = '\\' then
      match rest with
      | 'u' :: more =>
        match readUnit? more with
        | none => none
        | some (unit, after) =>
          let paired := match after with
            | '\\' :: 'u' :: more' => readUnit? more'
            | _ => none
          match paired with
          | some (low, after') =>
            if 0xD800 ≤ unit ∧ unit < 0xDC00 ∧ 0xDC00 ≤ low ∧ low < 0xE000 then
              let code := 0x10000 + (unit - 0xD800) * 0x400 + (low - 0xDC00)
              readString? steps (Char.ofNat code :: seen) after'
            else readString? steps (Char.ofNat unit :: seen) after
          | none => readString? steps (Char.ofNat unit :: seen) after
      | letter :: more =>
        match simpleEscape? letter with
        | some d => readString? steps (d :: seen) more
        | none => none
      | [] => none
    else if c.toNat < 0x20 then none
    else readString? steps (c :: seen) rest

/-- What follows a word at the head of a text. -/
def afterWord? (word : String) (cs : List Char) : Option (List Char) :=
  let w := word.toList
  if w.isPrefixOf cs then some (cs.drop w.length) else none

/-- Reads a number: no leading zeros, digits on both sides of a point, and not too many of
them in an integer. -/
def readNumber? (cs : List Char) : Option (Json × List Char) :=
  let (negative, body) := match cs with
    | '-' :: rest => (true, rest)
    | rest => (false, rest)
  let whole := match body with
    | '0' :: _ => ['0']
    | body => body.takeWhile Text.isAsciiDigit
  let afterWhole := body.drop whole.length
  let fraction := match afterWhole with
    | '.' :: more =>
      let digits := more.takeWhile Text.isAsciiDigit
      if digits.isEmpty then [] else '.' :: digits
    | _ => []
  let afterFraction := afterWhole.drop fraction.length
  let power := match afterFraction with
    | mark :: more =>
      if mark = 'e' ∨ mark = 'E' then
        let sign := match more with
          | '-' :: _ => ['-']
          | '+' :: _ => ['+']
          | _ => []
        let digits := (more.drop sign.length).takeWhile Text.isAsciiDigit
        if digits.isEmpty then [] else mark :: (sign ++ digits)
      else []
    | [] => []
  let rest := afterFraction.drop power.length
  if whole.isEmpty then none
  else if fraction.isEmpty && power.isEmpty then
    let n : Int := Numeral.value whole
    if Numeral.digitLimit < whole.length then none
    else some (.integer (if negative then -n else n), rest)
  else
    let text := whole ++ fraction ++ power
    (Numeral.readFloat? 0 (if negative then '-' :: text else text)).map fun x =>
      (.float x, rest)

/-- Sets a member of an object: a member of that name keeps its place. -/
def setMember (name : String) (j : Json) : List (String × Json) → List (String × Json)
  | [] => [(name, j)]
  | (n, i) :: rest =>
    if n = name then (n, j) :: rest else (n, i) :: setMember name j rest

/-- Why a text is not read as a document. -/
inductive Fault where
  | malformed
  /-- An array, or else an object, lies too deep inside of others. -/
  | tooDeep (isObject : Bool)
  deriving DecidableEq, Repr

/-- What is read, if anything is. -/
def known {α : Type} : Option α → Except Fault α
  | some a => .ok a
  | none => .error .malformed

mutual

/-- Reads a document that nests at most `depth` deep; `steps` bounds how many of its
parts are read. -/
def readValue (depth : Nat) : Nat → List Char → Except Fault (Json × List Char)
  | 0, _ => .error .malformed
  | steps + 1, cs =>
    match skipBlanks cs, depth with
    | '"' :: rest, _ =>
      (known (readString? (rest.length + 1) [] rest)).map fun (s, r) => (.string s, r)
    | '[' :: _, 0 => .error (.tooDeep false)
    | '[' :: rest, inner + 1 =>
      match skipBlanks rest with
      | ']' :: after => .ok (.array [], after)
      | more => (readElements inner steps more).map fun (es, r) => (.array es, r)
    | '\x7b' :: _, 0 => .error (.tooDeep true)
    | '\x7b' :: rest, inner + 1 =>
      match skipBlanks rest with
      | '\x7d' :: after => .ok (.object [], after)
      | more =>
        (readMembers inner steps more).map fun (ms, r) =>
          (.object (ms.foldl (fun o (n, j) => setMember n j o) []), r)
    | more, _ =>
      match afterWord? "null" more with
      | some r => .ok (.null, r)
      | none =>
      match afterWord? "true" more with
      | some r => .ok (.boolean true, r)
      | none =>
      match afterWord? "false" more with
      | some r => .ok (.boolean false, r)
      | none =>
      match afterWord? "NaN" more with
      | some r => .ok (.float (.nan 0), r)
      | none =>
      match afterWord? "Infinity" more with
      | some r => .ok (.float (.infinite false), r)
      | none =>
      match afterWord? "-Infinity" more with
      | some r => .ok (.float (.infinite true), r)
      | none => known (readNumber? more)

/-- Reads the elements of an array and its closing bracket. -/
def readElements (depth : Nat) : Nat → List Char → Except Fault (List Json × List Char)
  | 0, _ => .error .malformed
  | steps + 1, cs =>
    match readValue depth steps cs with
    | .error f => .error f
    | .ok (j, after) =>
      match skipBlanks after with
      | ',' :: rest => (readElements depth steps rest).map fun (js, r) => (j :: js, r)
      | ']' :: rest => .ok ([j], rest)
      | _ => .error .malformed

/-- Reads the members of an object and its closing brace. -/
def readMembers (depth : Nat) :
    Nat → List Char → Except Fault (List (String × Json) × List Char)
  | 0, _ => .error .malformed
  | steps + 1, cs =>
    match skipBlanks cs with
    | '"' :: text =>
      match readString? (text.length + 1) [] text with
      | none => .error .malformed
      | some (name, afterName) =>
        match skipBlanks afterName with
        | ':' :: body =>
          match readValue depth steps body with
          | .error f => .error f
          | .ok (j, after) =>
            match skipBlanks after with
            | ',' :: rest =>
              (readMembers depth steps rest).map fun (ms, r) => ((name, j) :: ms, r)
            | '\x7d' :: rest => .ok ([(name, j)], rest)
            | _ => .error .malformed
        | _ => .error .malformed
    | _ => .error .malformed

end

/-- The deepest nesting of a document from outside. A level takes up one call of those
that a host's stack holds. -/
def nestingLimit : Nat := 1000

/-- Reads a text as one document that nests at most `depth` deep. -/
def parse (depth : Nat) (text : String) : Except Fault Json :=
  match readValue depth (text.length + 1) text.toList with
  | .error f => .error f
  | .ok (j, rest) => if (skipBlanks rest).isEmpty then .ok j else .error .malformed

def parse? (text : String) : Option Json := (parse text.length text).toOption

/-- The member of an object under a name. -/
def get? (j : Json) (name : String) : Option Json :=
  match j with
  | object members => members.lookup name
  | _ => none

end Json

end Inlay
