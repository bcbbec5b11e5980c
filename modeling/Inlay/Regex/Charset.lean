import Inlay.Regex.Node
import Inlay.Text.Blank
import Inlay.Text.Digit
import Inlay.Text.Fold
import Inlay.Text.WordTable

/-!
# Which characters a part accepts

Parts that take up one character, and places between characters, under the
flags. Where case is ignored, a character is compared in lower case; a set then
lists the lower case of its members and their relatives.
-/

namespace Inlay.Regex

/-- A character that ends a line. -/
def isNewline (c : Char) : Bool := c == '\n'

/-- Whether a character belongs to a class; with the ASCII flag, only ASCII
characters do. -/
def Category.contains (flags : Flags) (c : Char) : Category → Bool
  | digit => if flags.unicode then Text.isDecimalDigit c else Text.isAsciiDigit c
  | space =>
    if flags.unicode then Text.isBlank c
    else [' ', '\t', '\n', '\r', '\x0b', '\x0c'].contains c
  | word =>
    c == '_' || if flags.unicode then Text.isAlphanumeric c else c.isAlphanum

/-- The lower case that characters are compared in. -/
def foldCode (flags : Flags) (code : Nat) : Nat :=
  if flags.unicode then Text.lowerCode code
  else if 0x41 ≤ code ∧ code ≤ 0x5A then code + 0x20
  else code

/-- The code points whose lower case is a given one. -/
def unfoldCode (flags : Flags) (code : Nat) : List Nat :=
  if flags.unicode then Text.lowerSources code
  else if 0x61 ≤ code ∧ code ≤ 0x7A then [code, code - 0x20]
  else if 0x41 ≤ code ∧ code ≤ 0x5A then []
  else [code]

/-- The lower-case letters that count as the same as a given one. -/
def relativesOf (flags : Flags) (code : Nat) : List Nat :=
  if flags.unicode then Text.relatives code else []

/-- Whether a code point has case. -/
def isCased (flags : Flags) (code : Nat) : Bool :=
  if flags.unicode then
    code != Text.lowerCode code || code != Text.upperCode code
  else (0x41 ≤ code && code ≤ 0x5A) || (0x61 ≤ code && code ≤ 0x7A)

/-- The last code point of the basic plane. Beyond it, members of sets are
compared as they are and in upper case. -/
def basicLast : Nat := 0xFFFF

namespace SetItem

/-- Whether an item lists a character, case counting. -/
def contains (flags : Flags) (c : Char) : SetItem → Bool
  | code n => c.toNat == n
  | range first last => first ≤ c.toNat && c.toNat ≤ last
  | category k negated => k.contains flags c != negated

/-- Whether an item lists a character, case not counting. -/
def containsFolded (flags : Flags) (c : Char) : SetItem → Bool
  | code n =>
    let folded := foldCode flags c.toNat
    let lower := foldCode flags n
    if basicLast < lower then folded == n
    else folded == lower || (relativesOf flags lower).contains folded
  | range first last =>
    let folded := foldCode flags c.toNat
    let sources := (folded :: relativesOf flags folded).flatMap (unfoldCode flags)
    let upper := Text.upperCode folded
    (sources.any fun n => first ≤ n && n ≤ min last basicLast) ||
      (basicLast < last &&
        ((first ≤ folded && folded ≤ last) || (first ≤ upper && upper ≤ last)))
  | category k negated =>
    k.contains flags ((Text.charOf? (foldCode flags c.toNat)).getD c) != negated

end SetItem

/-- Whether a character is the one of a code point. -/
def acceptsCode (flags : Flags) (code : Nat) (c : Char) : Bool :=
  if flags.ignoreCase && isCased flags code then
    let lower := foldCode flags code
    let folded := foldCode flags c.toNat
    folded == lower || (relativesOf flags lower).contains folded
  else c.toNat == code

/-- Whether a part that takes up one character accepts it. -/
def Node.accepts (flags : Flags) (c : Char) : Node → Bool
  | literal code negated => acceptsCode flags code c != negated
  | set items negated =>
    (if flags.ignoreCase then items.any (·.containsFolded flags c)
      else items.any (·.contains flags c)) != negated
  | any => flags.dotAll || !isNewline c
  | _ => false

/-- Whether two characters are the same, where case may not count. -/
def sameChar (flags : Flags) (c d : Char) : Bool :=
  if flags.ignoreCase then foldCode flags c.toNat == foldCode flags d.toNat else c == d

/-- Whether a place of a text, between two characters, is one of the anchors. An
empty text has no words and no places between them. -/
def Anchor.holds (flags : Flags) (text : Array Char) (place : Nat) (a : Anchor) : Bool :=
  let newlineAt (i : Nat) : Bool := (text[i]?).any isNewline
  let wordAt (i : Nat) : Bool := (text[i]?).any fun c => Category.word.contains flags c
  let edge := (0 < place && wordAt (place - 1)) != wordAt place
  match a with
  | start => place == 0 || (flags.multiline && newlineAt (place - 1))
  | textStart => place == 0
  | finish =>
    place == text.size ||
      (newlineAt place && (flags.multiline || place + 1 == text.size))
  | textEnd => place == text.size
  | wordEdge => !text.isEmpty && edge
  | notWordEdge => !text.isEmpty && !edge

end Inlay.Regex
