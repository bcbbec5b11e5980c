import Inlay.Yaml.Glyph

/-!
# Block scalars

A scalar that is written on lines of its own below a header. The header may say
how far the lines are indented and what becomes of the line ends after the last
line. In a folded scalar a line end between two lines that start with no blank
reads as a space.
-/

namespace Inlay.Yaml

/-- What becomes of the line ends after the last line. -/
inductive Chomping where
  /-- None stays. -/
  | strip
  /-- The first stays. -/
  | clip
  /-- All stay. -/
  | keep
  deriving DecidableEq, Repr

namespace BlockScalar

/-- What a header says, and how many glyphs it takes up. -/
structure Header where
  chomping : Chomping
  increment : Option Nat
  count : Nat
  deriving DecidableEq, Repr

def chomping? : Char → Option Chomping
  | '+' => some .keep
  | '-' => some .strip
  | _ => none

/-- The two signs of a header, in either order. -/
def signs (gs : List Glyph) : Except Fault Header :=
  let sign (gs : List Glyph) : Option Chomping := (gs.head?.map (·.char)).bind chomping?
  let digit (gs : List Glyph) : Option Nat := match gs with
    | g :: _ => if isDigit g.char then some (g.char.toNat - '0'.toNat) else none
    | [] => none
  let header : Header := match sign gs, digit gs with
    | some c, _ =>
      match digit (gs.drop 1) with
      | some n => ⟨c, some n, 2⟩
      | none => ⟨c, none, 1⟩
    | none, some n =>
      match sign (gs.drop 1) with
      | some c => ⟨c, some n, 2⟩
      | none => ⟨.clip, some n, 1⟩
    | none, none => ⟨.clip, none, 0⟩
  if header.increment = some 0 || !stopsAt isSpaceOrBreak (gs.drop header.count) then
    .error (.malformed .badBlockHeader)
  else .ok header

/-- The rest of a line that holds nothing but a comment, with its end. -/
def emptyLine (fault : Malformed) (gs : List Glyph) : Except Fault Nat :=
  let spaces := (runOf isSpace gs).length
  let after := gs.drop spaces
  let comment := if nextIs (· == '#') after then (runOf (!isBreak ·) after).length else 0
  match after.drop comment with
  | [] => .ok (spaces + comment)
  | g :: _ => if isBreak g.char then .ok (spaces + comment + 1) else .error (.malformed fault)

def header (gs : List Glyph) : Except Fault Header :=
  match signs gs with
  | .error f => .error f
  | .ok h =>
    (emptyLine .badBlockHeader (gs.drop h.count)).map fun n => { h with count := h.count + n }

/-- The empty lines that come first, and the greatest indentation among them and
the line after them. -/
def lead : List Glyph → Taken × Nat
  | [] => (.none, 0)
  | g :: rest =>
    if isSpace g.char then
      let (more, deepest) := lead rest
      (more.skip, max deepest (g.column + 1))
    else if isBreak g.char then
      let (more, deepest) := lead rest
      (more.cons (breakChar g.char), deepest)
    else (.none, 0)

/-- Empty lines, and the indentation of what follows them. -/
def breaks (indent : Nat) : List Glyph → Taken
  | [] => .none
  | g :: rest =>
    if isSpace g.char && g.column < indent then (breaks indent rest).skip
    else if isBreak g.char then (breaks indent rest).cons (breakChar g.char)
    else .none

/-- The text of the lines up to the last one's content, the end of that line, and
the ends of the empty lines after it. -/
structure Body where
  text : List Char
  count : Nat
  lastEnd : List Char
  trailing : List Char
  deriving DecidableEq, Repr

/-- Whether a line of the scalar stands here. -/
def continuesAt (indent : Nat) : List Glyph → Bool
  | [] => false
  | g :: _ => g.column == indent

/-- How two lines are joined: by the end of the first, or in a folded scalar by
a space, where empty lines between the two take the space's place. -/
def joint (isFolded flush : Bool) (lineEnd : Char) (empty : List Char) (next : List Glyph) :
    List Char :=
  if isFolded && flush && lineEnd == '\n' && !nextIs isBlank next then
    if empty.isEmpty then [' '] else []
  else [lineEnd]

/-- Reads lines, after empty ones whose ends are given. -/
def body (isFolded : Bool) (indent : Nat) (empty : List Char) (gs : List Glyph) : Body :=
  match gs with
  | [] => ⟨[], 0, [], empty⟩
  | g :: rest =>
    if g.column ≠ indent then ⟨[], 0, [], empty⟩
    else
      let line := runOf (!isBreak ·) gs
      match gs.drop line.length with
      | [] => ⟨empty ++ line, line.length, [], []⟩
      | lineEnd :: after =>
        let last := breakChar lineEnd.char
        let more := breaks indent after
        let taken := line.length + 1 + more.count
        let next := rest.drop (taken - 1)
        if continuesAt indent next then
          let following := body isFolded indent more.text next
          { following with
            text := empty ++ line ++ joint isFolded (!isBlank g.char) last more.text next ++
              following.text
            count := taken + following.count }
        else ⟨empty ++ line, taken, [last], more.text⟩
termination_by gs.length
decreasing_by simp only [List.length_cons, List.length_drop]; omega

/-- A whole body with its last line ends treated as the header says. -/
def Body.chomp (b : Body) : Chomping → List Char
  | .strip => b.text
  | .clip => b.text ++ b.lastEnd
  | .keep => b.text ++ b.lastEnd ++ b.trailing

/-- Reads a scalar after the mark that opens it, where its lines are to be
indented by `least` columns or more. -/
def read (isFolded : Bool) (least : Nat) (gs : List Glyph) : Except Fault Taken :=
  (header gs).map fun h =>
    let after := gs.drop h.count
    let (empty, indent) := match h.increment with
      | some n => (breaks (least + n - 1) after, least + n - 1)
      | none =>
        let (empty, deepest) := lead after
        (empty, max least deepest)
    let b := body isFolded indent empty.text (after.drop empty.count)
    ⟨b.chomp h.chomping, h.count + empty.count + b.count⟩

end BlockScalar

end Inlay.Yaml
