import Inlay.Text.Ranges
import Inlay.Text.Utf8
import Inlay.Yaml.BlockScalar
import Inlay.Yaml.Token

/-!
# Names: anchors, tags and directives

Anchors and handles are made of ASCII letters, digits, hyphens and underscores.
The rest of a tag may hold the characters of a resource name, with escapes that
code bytes.

The second half tells what tags mean.
-/

namespace Inlay.Yaml

/-! ## Reading -/

namespace Name

/-- A character that may follow the name of an anchor. -/
def isAfterAnchor (c : Char) : Bool :=
  isGap c || ['?', ':', ',', ']', '\x7d', '%', '@', '\x60'].contains c

/-- The name of an anchor or an alias, after its mark. -/
def anchor (gs : List Glyph) : Except Fault Taken :=
  let name := runOf isNamePart gs
  if name.isEmpty || !stopsAt isAfterAnchor (gs.drop name.length) then
    .error (.malformed .badAnchor)
  else .ok ⟨name, name.length⟩

/-- A handle: a mark alone before a space, or two marks with a name between. -/
def handle (fault : Malformed) (gs : List Glyph) : Except Fault Taken :=
  match gs with
  | [] => .error (.malformed fault)
  | g :: rest =>
    if g.char ≠ '!' then .error (.malformed fault)
    else if nextIs isSpace rest then .ok ⟨['!'], 1⟩
    else
      let name := runOf isNamePart rest
      if nextIs (· == '!') (rest.drop name.length) then
        .ok ⟨'!' :: (name ++ ['!']), name.length + 2⟩
      else .error (.malformed fault)

/-- A character of a resource name that stands for itself. -/
def isUriPart (c : Char) : Bool :=
  isNamePart c ||
    [';', '/', '?', ':', '@', '&', '=', '+', '$', ',', '.', '!', '~', '*', '\'', '(', ')', '[',
      ']'].contains c

def escapedBytes (fault : Malformed) : List Glyph → Except Fault (List UInt8)
  | mark :: high :: low :: rest =>
    if mark.char ≠ '%' then .ok []
    else if isHexDigit high.char && isHexDigit low.char then
      (escapedBytes fault rest).map fun bytes =>
        UInt8.ofNat (Text.hexNumber [high.char, low.char]) :: bytes
    else .error (.malformed fault)
  | gs => if nextIs (· == '%') gs then .error (.malformed fault) else .ok []

/-- A resource name or its end, which may be empty. -/
def uriFrom (fault : Malformed) (gs : List Glyph) : Except Fault Taken :=
  match gs with
  | [] => .ok .none
  | g :: rest =>
    if g.char = '%' then
      match escapedBytes fault gs with
      | .error f => .error f
      | .ok bytes =>
        match Text.Utf8.decodeFrom 0 none [] bytes with
        | .error _ => .error (.malformed fault)
        | .ok cs =>
          (uriFrom fault (rest.drop (3 * bytes.length - 1))).map
            (Taken.append ⟨cs, 3 * bytes.length⟩)
    else if isUriPart g.char then (uriFrom fault rest).map (.cons g.char)
    else .ok .none
termination_by gs.length
decreasing_by all_goals simp only [List.length_cons, List.length_drop]; omega

def uri (fault : Malformed) (gs : List Glyph) : Except Fault Taken :=
  match uriFrom fault gs with
  | .error f => .error f
  | .ok t => if t.count = 0 then .error (.malformed fault) else .ok t

/-- A tag after its mark: its handle, if it has one, and the rest; and how many
glyphs it takes up. -/
def tag (gs : List Glyph) : Except Fault (Token × Nat) := do
  let (handle, suffix, count) ←
    if nextIs (· == '<') gs then do
      let name ← uri .badTag (gs.drop 1)
      if nextIs (· == '>') (gs.drop (1 + name.count)) then
        pure (none, name.text, name.count + 2)
      else throw (.malformed .badTag)
    else if stopsAt isGap gs then pure (none, ['!'], 0)
    else if (runOf (!isSpaceOrBreak ·) gs).contains '!' then do
      let name := runOf isNamePart gs
      if !nextIs (· == '!') (gs.drop name.length) then throw (.malformed .badTag)
      let rest ← uri .badTag (gs.drop (name.length + 1))
      pure (some ('!' :: (name ++ ['!'])), rest.text, name.length + 1 + rest.count)
    else do
      let rest ← uri .badTag gs
      pure (some ['!'], rest.text, rest.count)
  if stopsAt isSpaceOrBreak (gs.drop count) then
    return (.tag (handle.map String.ofList) (String.ofList suffix), count)
  else throw (.malformed .badTag)

def versionNumber (gs : List Glyph) : Except Fault (Nat × Nat) :=
  let digits := runOf isDigit gs
  if digits.isEmpty then .error (.malformed .badDirective)
  else if Numeral.digitLimit < digits.length then .error (.numeralTooLong digits.length)
  else .ok (Numeral.value digits, digits.length)

/-- A directive after its mark, with the rest of its line. -/
def directive (gs : List Glyph) : Except Fault (Directive × Nat) := do
  let name := runOf isNamePart gs
  let after := gs.drop name.length
  if name.isEmpty || !stopsAt isSpaceOrBreak after then throw (.malformed .badDirective)
  let spaces := (runOf isSpace after).length
  let value := after.drop spaces
  let (directive, taken) ←
    if name = "YAML".toList then do
      let (major, width) ← versionNumber value
      if !nextIs (· == '.') (value.drop width) then throw (.malformed .badDirective)
      let (minor, minorWidth) ← versionNumber (value.drop (width + 1))
      let total := width + 1 + minorWidth
      if !stopsAt isSpaceOrBreak (value.drop total) then throw (.malformed .badDirective)
      pure (Directive.version major minor, spaces + total)
    else if name = "TAG".toList then do
      let handle ← handle .badDirective value
      let spaced := value.drop handle.count
      if !nextIs isSpace spaced then throw (.malformed .badDirective)
      let gap := (runOf isSpace spaced).length
      let start ← uri .badDirective (spaced.drop gap)
      if !stopsAt isSpaceOrBreak (spaced.drop (gap + start.count)) then
        throw (.malformed .badDirective)
      pure (Directive.handle (String.ofList handle.text) (String.ofList start.text),
        spaces + handle.count + gap + start.count)
    else pure (Directive.other (String.ofList name), (runOf (!isBreak ·) after).length)
  let ended ← BlockScalar.emptyLine .badDirective (after.drop taken)
  return (directive, name.length + taken + ended)

end Name

/-! ## Meaning -/

/-- What a tag says about a node. -/
inductive Tag where
  | null
  | boolean
  | integer
  | float
  | binary
  | moment
  | orderedMap
  | pairs
  | set
  | text
  | sequence
  | mapping
  /-- The key that takes over the entries of another mapping. -/
  | merge
  /-- The key that holds what a mapping stands for as a scalar. -/
  | value
  | other (name : String)
  deriving DecidableEq, Repr

namespace Tag

def standardStart : String := "tag:yaml.org,2002:"

def standard : List (String × Tag) :=
  [("null", .null), ("bool", .boolean), ("int", .integer), ("float", .float),
   ("binary", .binary), ("timestamp", .moment), ("omap", .orderedMap), ("pairs", .pairs),
   ("set", .set), ("str", .text), ("seq", .sequence), ("map", .mapping), ("merge", .merge),
   ("value", .value)]

def ofName (name : String) : Tag :=
  match standard.find? fun (short, _) => standardStart ++ short == name with
  | some (_, tag) => tag
  | none => .other name

def defaultHandles : List (String × String) := [("!", "!"), ("!!", standardStart)]

end Tag

end Inlay.Yaml
