import Inlay.Text.Ranges
import Inlay.Yaml.Glyph

/-!
# Quoted scalars

Between single quotes a doubled quote stands for one; between double quotes a
backslash starts an escape. A line end between words reads as a space, further
ones as line feeds, and the blanks around them are dropped.
-/

namespace Inlay.Yaml.Quoted

/-- The further line ends after one, and the blanks about them. A mark that
separates documents may not start a line. -/
def breaks (fresh : Bool) : List Glyph → Except Fault Taken
  | [] => .ok .none
  | g :: rest =>
    if fresh && isSeparator (g :: rest) then .error (.malformed .separatorInQuote)
    else if isBlank g.char then (breaks false rest).map .skip
    else if isBreak g.char then (breaks true rest).map (.cons (breakChar g.char))
    else .ok .none

/-- Line ends as they read inside a scalar, given the first of them. -/
def folded (first : Char) (more : List Char) : List Char :=
  if first ≠ '\n' then first :: more
  else if more.isEmpty then [' ']
  else more

/-- Blanks, or blanks with line ends among them. -/
def gap (gs : List Glyph) : Except Fault Taken :=
  let blanks := runOf isBlank gs
  match gs.drop blanks.length with
  | [] => .error (.malformed .unclosedQuote)
  | g :: rest =>
    if isBreak g.char then
      (breaks true rest).map fun more =>
        ⟨folded (breakChar g.char) more.text, blanks.length + 1 + more.count⟩
    else .ok ⟨blanks, blanks.length⟩

/-- What an escape of one letter stands for. -/
def escapedChar? : Char → Option Char
  | '0' => some '\x00'
  | 'a' => some '\x07'
  | 'b' => some '\x08'
  | 't' => some '\t'
  | '\t' => some '\t'
  | 'n' => some '\n'
  | 'v' => some '\x0B'
  | 'f' => some '\x0C'
  | 'r' => some '\r'
  | 'e' => some '\x1B'
  | ' ' => some ' '
  | '"' => some '"'
  | '\\' => some '\\'
  | '/' => some '/'
  | 'N' => some '\u0085'
  | '_' => some '\u00A0'
  | 'L' => some '\u2028'
  | 'P' => some '\u2029'
  | _ => none

/-- The number of hexadecimal digits after a letter. -/
def escapeWidth? : Char → Option Nat
  | 'x' => some 2
  | 'u' => some 4
  | 'U' => some 8
  | _ => none

/-- The character with a code. A surrogate has none, and its place is taken by
the replacement character. -/
def charOfCode (n : Nat) : Except Fault Char :=
  if n < 0x110000 then .ok (if n.isValidChar then Char.ofNat n else '\uFFFD')
  else if n < 0x80000000 then .error .codePointTooLarge
  else .error .codePointBeyondWord

/-- What stands after a backslash. -/
def escape (gs : List Glyph) : Except Fault Taken :=
  match gs with
  | [] => .error (.malformed .badEscape)
  | g :: rest =>
    match escapedChar? g.char, escapeWidth? g.char with
    | some c, _ => .ok ⟨[c], 1⟩
    | none, some width =>
      let digits := runOf isHexDigit (rest.take width)
      if digits.length < width then .error (.malformed .badEscape)
      else (charOfCode (Text.hexNumber digits)).map fun c => ⟨[c], 1 + width⟩
    | none, none =>
      if isBreak g.char then (breaks true rest).map .skip
      else .error (.malformed .badEscape)

/-- A scalar after its opening quote; the closing one is taken up too. -/
def text (double : Bool) (gs : List Glyph) : Except Fault Taken :=
  match gs with
  | [] => .error (.malformed .unclosedQuote)
  | g :: rest =>
    let c := g.char
    if c = (if double then '"' else '\'') then
      if !double && nextIs (· == '\'') rest then
        (text double (rest.drop 1)).map fun t => (t.cons '\'').skip
      else .ok ⟨[], 1⟩
    else if double && c == '\\' then
      match escape rest with
      | .error f => .error f
      | .ok e => (text double (rest.drop e.count)).map fun t => (e.append t).skip
    else if isGap c then
      match gap (g :: rest) with
      | .error f => .error f
      | .ok e => (text double (rest.drop (e.count - 1))).map e.append
    else (text double rest).map (.cons c)
termination_by gs.length
decreasing_by all_goals simp only [List.length_cons, List.length_drop]; omega

end Inlay.Yaml.Quoted
