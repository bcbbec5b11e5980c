/-!
# Regular expressions

The parts that a regular expression is made of, and how many characters each
can take up.
-/

namespace Inlay.Regex

/-- The flags of (a part of) a regular expression. -/
structure Flags where
  ignoreCase : Bool := false
  multiline : Bool := false
  dotAll : Bool := false
  verbose : Bool := false
  ascii : Bool := false
  unicode : Bool := false
  template : Bool := false
  deriving DecidableEq, Repr, Inhabited

namespace Flags

def ofLetter? : Char → Option Flags
  | 'i' => some { ignoreCase := true }
  | 'm' => some { multiline := true }
  | 's' => some { dotAll := true }
  | 'x' => some { verbose := true }
  | 'a' => some { ascii := true }
  | 'u' => some { unicode := true }
  | 't' => some { template := true }
  | _ => none

def union (f g : Flags) : Flags :=
  ⟨f.ignoreCase || g.ignoreCase, f.multiline || g.multiline, f.dotAll || g.dotAll,
    f.verbose || g.verbose, f.ascii || g.ascii, f.unicode || g.unicode,
    f.template || g.template⟩

/-- The flags that are in the first set but not in the second. -/
def without (f g : Flags) : Flags :=
  ⟨f.ignoreCase && !g.ignoreCase, f.multiline && !g.multiline, f.dotAll && !g.dotAll,
    f.verbose && !g.verbose, f.ascii && !g.ascii, f.unicode && !g.unicode,
    f.template && !g.template⟩

/-- Whether some flag is in both sets. -/
def meets (f g : Flags) : Bool := f.without g != f

/-- The flags that say which characters are letters; they exclude each other. -/
def types : Flags := { ascii := true, unicode := true }

/-- The flags inside a group that adds some and removes others. -/
def within (f added removed : Flags) : Flags :=
  ((if added.meets types then f.without types else f).union added).without removed

end Flags

/-- Classes of characters. -/
inductive Category where
  | digit
  | space
  | word
  deriving DecidableEq, Repr

/-- What a set of characters lists: code points, ranges, classes and what is not
in a class. -/
inductive SetItem where
  | code (n : Nat)
  | range (first last : Nat)
  | category (c : Category) (negated : Bool)
  deriving DecidableEq, Repr

/-- Places that take up no character: where a line or the text starts, where one
of them ends, and where words start or end. -/
inductive Anchor where
  | start
  | textStart
  | finish
  | textEnd
  | wordEdge
  | notWordEdge
  deriving DecidableEq, Repr

/-- How often a repetition prefers to go on: as often as it can, as seldom as it
can, and as often as it can without ever going back. -/
inductive Greed where
  | greedy
  | lazy
  | possessive
  deriving DecidableEq, Repr

/-- The least and the greatest number of characters that a part takes up. -/
structure Width where
  least : Nat
  most : Nat
  deriving DecidableEq, Repr, Inhabited

/-- A part of a regular expression. A look-behind holds the width of its body. -/
inductive Node where
  | literal (code : Nat) (negated : Bool)
  | set (items : List SetItem) (negated : Bool)
  | any
  | anchor (a : Anchor)
  | reference (group : Nat)
  | alternatives (branches : List (List Node))
  | group (number : Option Nat) (added removed : Flags) (body : List Node)
  | atomic (body : List Node)
  | repetition (greed : Greed) (least : Nat) (most : Option Nat) (body : List Node)
  | look (behind : Option Width) (negated : Bool) (body : List Node)
  | condition (group : Nat) (yes no : List Node)
  deriving Repr, Inhabited

namespace Width

/-- The width beyond which widths are not told apart. -/
def limit : Nat := 0x10000000000000000

def zero : Width := ⟨0, 0⟩

def one : Width := ⟨1, 1⟩

def add (v w : Width) : Width := ⟨v.least + w.least, v.most + w.most⟩

/-- The width of whichever of two parts is taken. -/
def either (v w : Width) : Width := ⟨min v.least w.least, max v.most w.most⟩

def bounded (w : Width) : Width := ⟨min w.least limit, min w.most limit⟩

def times (w : Width) (least : Nat) (most : Option Nat) : Width :=
  ⟨w.least * least,
    match most with
    | some n => w.most * n
    | none => if w.most = 0 then 0 else limit⟩

end Width

namespace Node

mutual

/-- The width of a part, when `groups` holds the widths of the groups. -/
def width (groups : Array (Option Width)) : Node → Width
  | literal _ _ => .one
  | set _ _ => .one
  | any => .one
  | anchor _ => .zero
  | reference n => ((groups[n]?).bind id).getD .zero
  | alternatives branches => branchWidth groups branches
  | group _ _ _ body => widthOf groups body
  | atomic body => widthOf groups body
  | repetition _ least most body => (widthOf groups body).times least most
  | look _ _ _ => .zero
  | condition _ yes no =>
    if no.isEmpty then (widthOf groups yes).either .zero
    else (widthOf groups yes).either (widthOf groups no)

def widthOf (groups : Array (Option Width)) : List Node → Width
  | [] => .zero
  | n :: rest => ((width groups n).add (widthOf groups rest)).bounded

def branchWidth (groups : Array (Option Width)) : List (List Node) → Width
  | [] => .zero
  | [branch] => widthOf groups branch
  | branch :: rest => (widthOf groups branch).either (branchWidth groups rest)

end

/-- A part that always takes up one character. -/
def isUnit : Node → Bool
  | literal _ _ => true
  | set _ _ => true
  | any => true
  | _ => false

/-- The parts of a group that neither captures nor changes flags, or the part
itself. -/
def ungrouped : Node → List Node
  | group none added removed body =>
    if added = {} ∧ removed = {} then body else [group none added removed body]
  | n => [n]

end Node

/-- A regular expression: its parts, its flags and the number of its groups. -/
structure Expression where
  parts : List Node
  flags : Flags
  groupCount : Nat
  deriving Repr, Inhabited

end Inlay.Regex
