import Inlay.Text.Lines
import Inlay.Yaml.Fault

/-!
# Characters with their places

What a character means depends on where it stands: on its column and on how far
it is from a possible key. So a text is first turned into its characters with
their places. Carriage returns read as line feeds, a byte order mark at the head
is passed over, and one further on takes no column.
-/

namespace Inlay.Yaml

/-- A character and where it stands: the number of characters, of lines, and of
columns on its line before it. -/
structure Glyph where
  char : Char
  index : Nat
  line : Nat
  column : Nat
  deriving DecidableEq, Repr

/-! ## Classes of characters -/

/-- A character that may stand in a document at all. -/
def isAllowed (c : Char) : Bool :=
  let n := c.toNat
  n == 0x9 || n == 0xA || n == 0xD || (0x20 ≤ n && n ≤ 0x7E) || n == 0x85 ||
    (0xA0 ≤ n && n ≤ 0xD7FF) || (0xE000 ≤ n && n ≤ 0xFFFD) || 0x10000 ≤ n

/-- A character that ends a line. -/
def isBreak (c : Char) : Bool :=
  c == '\n' || c == '\u0085' || c == '\u2028' || c == '\u2029'

/-- The character that the end of a line reads as. -/
def breakChar (c : Char) : Char := if c = '\u0085' then '\n' else c

def isSpace (c : Char) : Bool := c == ' '

def isBlank (c : Char) : Bool := c == ' ' || c == '\t'

/-- A blank or the end of a line. -/
def isGap (c : Char) : Bool := isBlank c || isBreak c

def isSpaceOrBreak (c : Char) : Bool := isSpace c || isBreak c

def isDigit (c : Char) : Bool := '0' ≤ c && c ≤ '9'

def isHexDigit (c : Char) : Bool :=
  isDigit c || ('a' ≤ c && c ≤ 'f') || ('A' ≤ c && c ≤ 'F')

/-- A character of the name of an anchor, a handle or a directive. -/
def isNamePart (c : Char) : Bool :=
  isDigit c || ('a' ≤ c && c ≤ 'z') || ('A' ≤ c && c ≤ 'Z') || c == '-' || c == '_'

def byteOrderMark : Char := '\uFEFF'

/-! ## Placing -/

/-- The glyphs of characters, the first of which stands at the given place. -/
def placeFrom (index line column : Nat) : List Char → List Glyph
  | [] => []
  | c :: rest =>
    ⟨c, index, line, column⟩ ::
      if isBreak c then placeFrom (index + 1) (line + 1) 0 rest
      else placeFrom (index + 1) line (if c = byteOrderMark then column else column + 1) rest

def glyphs (cs : List Char) : List Glyph :=
  let cs := match cs with
    | c :: rest => if c = byteOrderMark then rest else cs
    | [] => []
  placeFrom 0 0 0 (Text.normalizeLineEnds cs)

/-! ## Looking at what comes next -/

/-- Whether the next character is in a class. -/
def nextIs (p : Char → Bool) : List Glyph → Bool
  | [] => false
  | g :: _ => p g.char

/-- Whether the text is at its end or the next character is in a class. -/
def stopsAt (p : Char → Bool) : List Glyph → Bool
  | [] => true
  | g :: _ => p g.char

def chars (gs : List Glyph) : List Char := gs.map (·.char)

/-- The longest run of characters in a class at the head of a text. -/
def runOf (p : Char → Bool) (gs : List Glyph) : List Char :=
  chars (gs.takeWhile fun g => p g.char)

/-- Whether three marks that separate documents stand here. -/
def isSeparator (gs : List Glyph) : Bool :=
  let head := chars (gs.take 3)
  (head == ['-', '-', '-'] || head == ['.', '.', '.']) && stopsAt isGap (gs.drop 3)

/-- Characters that were read, and how many glyphs were taken up for them. -/
structure Taken where
  text : List Char
  count : Nat
  deriving DecidableEq, Repr

namespace Taken

def none : Taken := ⟨[], 0⟩

/-- With one more glyph before it that stands for a character. -/
def cons (c : Char) (t : Taken) : Taken := ⟨c :: t.text, t.count + 1⟩

/-- With one more glyph before it that stands for nothing. -/
def skip (t : Taken) : Taken := ⟨t.text, t.count + 1⟩

/-- One after another. -/
def append (t u : Taken) : Taken := ⟨t.text ++ u.text, t.count + u.count⟩

end Taken

end Inlay.Yaml
