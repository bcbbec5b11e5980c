import Inlay.Yaml.Quoted

/-!
# Plain scalars

A scalar without quotes ends before `: `, before ` #`, and, inside brackets,
before the marks that brackets give a meaning. It may go on over several lines
as long as they are indented; line ends read as between quotes.
-/

namespace Inlay.Yaml

/-- A mark that means something inside brackets. -/
def isFlowMark (c : Char) : Bool :=
  c == ',' || c == '[' || c == ']' || c == '\x7b' || c == '\x7d'

/-- A scalar without quotes. `broken` says that a line end was taken up after
its last word. -/
structure Plain where
  text : List Char
  count : Nat
  broken : Bool
  deriving DecidableEq, Repr

namespace Plain

/-- A word of a scalar; `flow` says that it stands inside brackets. -/
def word (flow : Bool) : List Glyph → List Char
  | [] => []
  | g :: rest =>
    let c := g.char
    let ends := isGap c ||
      (c == ':' && stopsAt (fun d => isGap d || (flow && isFlowMark d)) rest) ||
      (flow && (isFlowMark c || c == '?'))
    if ends then [] else c :: word flow rest

/-- The further line ends after one, and the spaces about them; whether a mark
that separates documents stands where they end. -/
def breaks (fresh : Bool) : List Glyph → Taken × Bool
  | [] => (.none, false)
  | g :: rest =>
    if fresh && isSeparator (g :: rest) then (.none, true)
    else if isSpace g.char then
      let (more, cut) := breaks false rest
      (more.skip, cut)
    else if isBreak g.char then
      let (more, cut) := breaks true rest
      (more.cons (breakChar g.char), cut)
    else (.none, false)

/-- What stands between two words. It is empty if no word can follow. -/
def gap (gs : List Glyph) : Plain :=
  let spaces := runOf isSpace gs
  match gs.drop spaces.length with
  | [] => ⟨spaces, spaces.length, false⟩
  | g :: rest =>
    if isBreak g.char then
      let (more, cut) := breaks true rest
      let text := if cut then [] else Quoted.folded (breakChar g.char) more.text
      ⟨text, spaces.length + 1 + more.count, true⟩
    else ⟨spaces, spaces.length, false⟩

/-- Whether a scalar whose lines are to start at column `indent` or later can go
on here. -/
def goesOn (flow : Bool) (indent : Nat) : List Glyph → Bool
  | [] => false
  | g :: _ => g.char != '#' && (flow || indent ≤ g.column)

/-- Reads a scalar with the gap after it. -/
def read (flow : Bool) (indent : Nat) (gs : List Glyph) : Plain :=
  match gs with
  | [] => ⟨[], 0, false⟩
  | _ :: rest =>
    let word := word flow gs
    if word.isEmpty then ⟨[], 0, false⟩
    else
      let gap := gap (gs.drop word.length)
      let first : Plain := ⟨word, word.length + gap.count, gap.broken⟩
      let after := rest.drop (first.count - 1)
      if gap.text.isEmpty || !goesOn flow indent after then first
      else
        let more := read flow indent after
        if more.text.isEmpty then first
        else ⟨word ++ gap.text ++ more.text, first.count + more.count, more.broken⟩
termination_by gs.length
decreasing_by simp only [List.length_cons, List.length_drop]; omega

end Plain

end Inlay.Yaml
