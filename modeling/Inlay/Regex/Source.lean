import Inlay.Regex.Fault
import Inlay.Regex.Node

/-!
# Reading the text of a regular expression

The text is read one unit at a time: a character, or a backslash with the
character after it. One unit is always looked at ahead of time, so a backslash
at the end is noticed as soon as it comes next. Along with the place, a reading
keeps the groups, their names and the flags found so far.
-/

namespace Inlay.Regex

/-- How far a regular expression has been read. -/
structure Reading where
  source : Array Char
  /-- The next unit; none at the end. -/
  next : Option (List Char)
  /-- Where the next unit starts. -/
  position : Nat
  /-- The widths of the groups; those still open have none. Group zero is the
  whole. -/
  groups : Array (Option Width)
  names : List (List Char × Nat)
  /-- Within a look-behind, the number of groups before it. -/
  lookbehind : Option Nat
  /-- Groups that conditions ask for by number, with the place of the number. -/
  asked : List (Nat × Nat)
  flags : Flags
  deriving Repr

/-- Steps of reading, which may fail. -/
abbrev Reader := StateT Reading (Except Fault)

namespace Reader

def failAt {α : Type} (cause : Cause) (position : Nat) : Reader α :=
  throw ⟨cause, some position⟩

/-- Fails so many characters before the next unit. -/
def fail {α : Type} (cause : Cause) (back : Nat) : Reader α := do
  failAt cause ((← get).position - back)

def unitAt (source : Array Char) (position : Nat) : Except Fault (Option (List Char)) :=
  match source[position]? with
  | none => .ok none
  | some c =>
    if c = '\\' then
      match source[position + 1]? with
      | some d => .ok (some [c, d])
      | none => .error ⟨.backslashAtEnd, some (source.size - 1)⟩
    else .ok (some [c])

/-- Goes to a place. -/
def seek (position : Nat) : Reader Unit := do
  let r ← get
  let next ← unitAt r.source position
  set { r with next, position }

/-- The next unit, without taking it. -/
def peek : Reader (Option (List Char)) := return (← get).next

/-- The place of the next unit. -/
def tell : Reader Nat := return (← get).position

/-- Takes the next unit. -/
def take : Reader (Option (List Char)) := do
  let r ← get
  seek (r.position + (r.next.getD []).length)
  return r.next

/-- Takes the next unit if it is a given character. -/
def skip (c : Char) : Reader Bool := do
  if (← peek) = some [c] then
    discard take
    return true
  else return false

/-- Takes units that are characters of a class, at most so many. -/
def takeWhile (ok : Char → Bool) : Nat → Reader (List Char)
  | 0 => return []
  | most + 1 => do
    match ← peek with
    | some [c] =>
      if ok c then
        discard take
        return c :: (← takeWhile ok most)
      else return []
    | _ => return []

/-- Takes what comes before a terminator, and the terminator. `steps` is at
least the number of units left. -/
def takeUntil (terminator : Char) (what : String) (read : List Char) :
    Nat → Reader (List Char)
  | 0 => fail (.missing what) 0
  | steps + 1 => do
    match ← take with
    | none =>
      if read.isEmpty then fail (.missing what) 0
      else fail (.unterminatedName terminator) read.length
    | some unit =>
      if unit = [terminator] then
        if read.isEmpty then fail (.missing what) 1 else return read
      else takeUntil terminator what (read ++ unit) steps

def unitsLeft : Reader Nat := return (← get).source.size + 1

/-- Whether a group is defined and closed. -/
def isClosed (number : Nat) : Reader Bool :=
  return (((← get).groups[number]?).bind id).isSome

/-- Refuses a reference within a look-behind to a group that is not closed or
not defined before it. -/
def checkLookbehind (number : Nat) : Reader Unit := do
  match (← get).lookbehind with
  | none => pure ()
  | some groups =>
    if !(← isClosed number) then fail .openGroup 0
    if groups ≤ number then fail .sameLookbehind 0

def openGroup (name : Option (List Char)) : Reader Nat := do
  let r ← get
  let number := r.groups.size
  match name with
  | none => set { r with groups := r.groups.push none }
  | some name =>
    match r.names.lookup name with
    | some first => fail (.repeatedName name number first) (name.length + 1)
    | none =>
      set { r with groups := r.groups.push none, names := (name, number) :: r.names }
  return number

def closeGroup (number : Nat) (body : List Node) : Reader Unit :=
  modify fun r =>
    { r with groups := r.groups.set! number (some (Node.widthOf r.groups body)) }

end Reader

end Inlay.Regex
