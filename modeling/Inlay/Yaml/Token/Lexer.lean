import Inlay.Yaml.Plain
import Inlay.Yaml.Tag

/-!
# From text to tokens

Outside of brackets, columns tell where collections open and close: the columns
of the open ones are kept, innermost first. A key is known as one only when the
colon after it is reached, so wherever a key may start its place is kept, one
for each level of brackets, and its token is put in later. A key without a mark
of its own has to lie on one line and within `keyReach` characters of its colon.

Reading a token takes up at least the character it starts with, so it ends. A
fault comes after the tokens before it.
-/

namespace Inlay.Yaml

/-- The tokens of a text, last of them `ending` unless a fault cut them short. -/
structure Lexed where
  tokens : List Token
  fault? : Option Fault
  deriving Repr

namespace Lexer

def keyReach : Nat := 1024

/-- A place where a key may have started: the number of tokens before it, where
it stands, and whether nothing but a key may stand there. -/
structure PossibleKey where
  position : Nat
  start : Glyph
  required : Bool
  deriving Repr

/-- What is known between two tokens: the depth of brackets, the columns of the
open collections outside of them, whether a key may start next, the possible
keys by depth, and the tokens so far, the last one first. -/
structure State where
  depth : Nat
  columns : List Nat
  keyAllowed : Bool
  possible : List (Nat × PossibleKey)
  tokens : List Token
  count : Nat
  deriving Repr

namespace State

def initial : State := ⟨0, [], true, [], [], 0⟩

def push (s : State) (t : Token) : State :=
  { s with tokens := t :: s.tokens, count := s.count + 1 }

/-- Puts in a token after the first `position` ones. -/
def insert (s : State) (position : Nat) (t : Token) : State :=
  { s with tokens := s.tokens.insertIdx (s.count - position) t, count := s.count + 1 }

def keyAllowedNext (s : State) (allowed : Bool) : State := { s with keyAllowed := allowed }

/-- Gives up the possible key at this depth. -/
def giveUpKey (s : State) : Except Fault State :=
  match s.possible.lookup s.depth with
  | none => .ok s
  | some key =>
    if key.required then .error (.malformed .missingColon)
    else .ok { s with possible := s.possible.filter fun (depth, _) => depth != s.depth }

/-- Notes that a key may start here. -/
def noteKey (s : State) (g : Glyph) : Except Fault State :=
  if s.keyAllowed then
    s.giveUpKey.map fun s =>
      let required := s.depth == 0 && s.columns.head? == some g.column
      { s with possible := (s.depth, ⟨s.count, g, required⟩) :: s.possible }
  else .ok s

/-- Gives up the possible keys that are too far away. -/
def giveUpFarKeys (s : State) (g : Glyph) : Except Fault State :=
  let far (key : PossibleKey) : Bool :=
    key.start.line != g.line || key.start.index + keyReach < g.index
  if s.possible.any fun (_, key) => far key && key.required then
    .error (.malformed .missingColon)
  else .ok { s with possible := s.possible.filter fun (_, key) => !far key }

/-- Closes collections while a condition on their columns holds. -/
def closeWhile (p : Nat → Bool) (s : State) : List Nat → State
  | [] => { s with columns := [] }
  | column :: rest =>
    if p column then closeWhile p (s.push .blockEnd) rest
    else { s with columns := column :: rest }

/-- Closes the collections that lie deeper than a column. -/
def closeTo (s : State) (column : Nat) : State :=
  if s.depth = 0 then s.closeWhile (column < ·) s.columns else s

/-- Closes all collections outside of brackets. -/
def closeAll (s : State) : State :=
  if s.depth = 0 then s.closeWhile (fun _ => true) s.columns else s

/-- Whether a collection at a column is deeper than the open ones. -/
def isDeeper (s : State) (column : Nat) : Bool :=
  match s.columns with
  | [] => true
  | top :: _ => top < column

def openAt (s : State) (column position : Nat) (t : Token) : State :=
  if s.isDeeper column then
    { s.insert position t with columns := column :: s.columns }
  else s

end State

/-- A token and what is known after it, with the number of further characters
that it takes up. -/
abbrev Step := Except Fault (State × Nat)

/-- A mark between documents. -/
def separator (s : State) (t : Token) : Step :=
  s.closeAll.giveUpKey.map fun s => ((s.push t).keyAllowedNext false, 2)

def openBracket (s : State) (g : Glyph) (t : Token) : Step :=
  (s.noteKey g).map fun s => (({ s with depth := s.depth + 1 }.push t).keyAllowedNext true, 0)

def closeBracket (s : State) (t : Token) : Step :=
  s.giveUpKey.map fun s => (({ s with depth := s.depth - 1 }.push t).keyAllowedNext false, 0)

/-- A mark before an entry or a key that opens a collection outside of brackets. -/
def openingMark (s : State) (g : Glyph) (opening t : Token) (fault : Malformed)
    (keyAllowed : Bool) : Step :=
  if s.depth = 0 && !s.keyAllowed then .error (.malformed fault)
  else
    let s := if s.depth = 0 then s.openAt g.column s.count opening else s
    s.giveUpKey.map fun s => ((s.push t).keyAllowedNext keyAllowed, 0)

/-- A colon: the possible key at this depth is one, or else the key is empty. -/
def colon (s : State) (g : Glyph) : Step :=
  match s.possible.lookup s.depth with
  | some key =>
    let s := { s with possible := s.possible.filter fun (depth, _) => depth != s.depth }
    let s := s.insert key.position .key
    let s := if s.depth = 0 then s.openAt key.start.column key.position .blockMappingStart else s
    .ok ((s.push .value).keyAllowedNext false, 0)
  | none => openingMark s g .blockMappingStart .value .misplacedValue (s.depth == 0)

/-- A token of a kind that may start a key. -/
def keyLike (s : State) (g : Glyph) (read : Except Fault (Token × Nat)) : Step :=
  match s.noteKey g with
  | .error f => .error f
  | .ok s => read.map fun (t, count) => ((s.push t).keyAllowedNext false, count)

def scalarOf (plain : Bool) (t : Taken) : Token × Nat :=
  (.scalar (String.ofList t.text) plain, t.count)

def blockScalar (s : State) (isFolded : Bool) (rest : List Glyph) : Step :=
  let least := match s.columns with
    | [] => 1
    | top :: _ => top + 1
  match s.giveUpKey with
  | .error f => .error f
  | .ok s =>
    (BlockScalar.read isFolded least rest).map fun t =>
      let (token, count) := scalarOf false t
      ((s.push token).keyAllowedNext true, count)

def plainScalar (s : State) (g : Glyph) (rest : List Glyph) : Step :=
  let indent := match s.columns with
    | [] => 0
    | top :: _ => top + 1
  (s.noteKey g).map fun s =>
    let p := Plain.read (s.depth != 0) indent (g :: rest)
    ((s.push (.scalar (String.ofList p.text) true)).keyAllowedNext p.broken, p.count - 1)

/-- A character that means something at the head of a token. -/
def isIndicator (c : Char) : Bool :=
  isFlowMark c ||
    ['-', '?', ':', '#', '&', '*', '!', '|', '>', '\'', '"', '%', '@', '\x60'].contains c

def startsPlain (depth : Nat) (c : Char) (rest : List Glyph) : Bool :=
  !(isGap c || isIndicator c) ||
    (!stopsAt isGap rest && (c == '-' || (depth == 0 && (c == '?' || c == ':'))))

/-- Reads the token that starts with `g`. -/
def step (s : State) (g : Glyph) (rest : List Glyph) : Step :=
  let c := g.char
  let atMargin := g.column == 0
  if c = '%' && atMargin then
    match s.closeAll.giveUpKey, Name.directive rest with
    | .error f, _ => .error f
    | _, .error f => .error f
    | .ok s, .ok (d, count) => .ok ((s.push (.directive d)).keyAllowedNext false, count)
  else if c = '-' && atMargin && isSeparator (g :: rest) then separator s .documentStart
  else if c = '.' && atMargin && isSeparator (g :: rest) then separator s .documentEnd
  else if c = '[' then openBracket s g .flowSequenceStart
  else if c = '\x7b' then openBracket s g .flowMappingStart
  else if c = ']' then closeBracket s .flowSequenceEnd
  else if c = '\x7d' then closeBracket s .flowMappingEnd
  else if c = ',' then
    s.giveUpKey.map fun s => ((s.push .flowEntry).keyAllowedNext true, 0)
  else if c = '-' && stopsAt isGap rest then
    openingMark s g .blockSequenceStart .blockEntry .misplacedEntry true
  else if c = '?' && (s.depth != 0 || stopsAt isGap rest) then
    openingMark s g .blockMappingStart .key .misplacedKey (s.depth == 0)
  else if c = ':' && (s.depth != 0 || stopsAt isGap rest) then colon s g
  else if c = '*' then
    keyLike s g ((Name.anchor rest).map fun t => (.alias (String.ofList t.text), t.count))
  else if c = '&' then
    keyLike s g ((Name.anchor rest).map fun t => (.anchor (String.ofList t.text), t.count))
  else if c = '!' then keyLike s g (Name.tag rest)
  else if c = '|' && s.depth == 0 then blockScalar s false rest
  else if c = '>' && s.depth == 0 then blockScalar s true rest
  else if c = '\'' then keyLike s g ((Quoted.text false rest).map (scalarOf false))
  else if c = '"' then keyLike s g ((Quoted.text true rest).map (scalarOf false))
  else if startsPlain s.depth c rest then plainScalar s g rest
  else .error (.malformed (.strayCharacter c))

/-- Spaces, comments and line ends before a token: their number, and whether a
line end is among them. -/
def gap (comment : Bool) : List Glyph → Nat × Bool
  | [] => (0, false)
  | g :: rest =>
    if isBreak g.char then ((gap false rest).1 + 1, true)
    else if comment || isSpace g.char then
      let (count, broken) := gap comment rest
      (count + 1, broken)
    else if g.char = '#' then
      let (count, broken) := gap true rest
      (count + 1, broken)
    else (0, false)

/-- What is known after the gap before a token that stands at `g`. -/
def approach (s : State) (broken : Bool) (g : Glyph) : Except Fault State :=
  let s := if broken && s.depth == 0 then s.keyAllowedNext true else s
  (s.giveUpFarKeys g).map fun s => s.closeTo g.column

/-- What is known at the end of the text. -/
def finish (s : State) : Except Fault State :=
  if s.possible.any fun (_, key) => key.required then .error (.malformed .missingColon)
  else .ok (s.closeAll.push .ending)

/-- Reads tokens to the end of a text. -/
def tokensFrom (s : State) (gs : List Glyph) : Lexed :=
  let gap := gap false gs
  match _h : gs.drop gap.1 with
  | [] =>
    match finish s with
    | .ok s => ⟨s.tokens.reverse, none⟩
    | .error f => ⟨s.tokens.reverse, some f⟩
  | g :: rest =>
    match approach s gap.2 g with
    | .error f => ⟨s.tokens.reverse, some f⟩
    | .ok near =>
      match step near g rest with
      | .error f => ⟨near.tokens.reverse, some f⟩
      | .ok (s, count) => tokensFrom s (rest.drop count)
termination_by gs.length
decreasing_by
  have := congrArg List.length _h
  simp only [List.length_cons, List.length_drop] at this ⊢
  omega

end Lexer

/-- The tokens of a text; characters that no document may hold are looked for
first. -/
def tokenize (text : String) : Lexed :=
  let cs := text.toList
  match cs.find? (!isAllowed ·) with
  | some c => ⟨[], some (.malformed (.unprintable c))⟩
  | none => Lexer.tokensFrom .initial (glyphs cs)

end Inlay.Yaml
