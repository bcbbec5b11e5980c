/-!
# Places in a text

A place is a line and a column, both counted from one. A line feed ends a
line; every other character takes one column.
-/

namespace Inlay

/-- A line and a column of a text, counted from one. -/
structure Location where
  line : Nat
  column : Nat
  deriving DecidableEq, Repr, Inhabited

namespace Location

/-- The place of a text's first character. -/
def start : Location := ⟨1, 1⟩

/-- The place after a character that stands at this place. -/
def after (l : Location) (c : Char) : Location :=
  if c = '\n' then ⟨l.line + 1, 1⟩ else ⟨l.line, l.column + 1⟩

/-- The place after a text that starts at this place. -/
def advance (l : Location) (cs : List Char) : Location := cs.foldl after l

/-- The place one column on. -/
def next (l : Location) : Location := ⟨l.line, l.column + 1⟩

theorem advance_nil (l : Location) : l.advance [] = l := rfl

theorem advance_append (l : Location) (xs ys : List Char) :
    l.advance (xs ++ ys) = (l.advance xs).advance ys := by
  simp [advance]

/-- How a place is named in messages. -/
def text (l : Location) : String :=
  "line " ++ toString l.line ++ ", column " ++ toString l.column

end Location

end Inlay
