import Inlay.Time.Zone
import Inlay.Time.Instant
import Inlay.Text.Quoted

/-!
# Patterns of dates and times

A pattern is text with directives: a percent sign, flags (`_`, `-`, `0` for the
padding, `^` for capitals, `#` for the other case), a width, a modifier (`E` or
`O`) and a letter. A directive that is not known stands for itself. Names are
English ones. The offset, the name of the zone and the microseconds are put in
first, where they are asked for without flags.
-/

namespace Inlay.Time

/-- A moment of local time. -/
structure Moment where
  day : Int
  secondOfDay : Nat
  micros : Nat
  zone : LocalTime
  deriving Repr

namespace Moment

def date (m : Moment) : Date := .ofDay m.day

def hour (m : Moment) : Nat := m.secondOfDay / 3600

def minute (m : Moment) : Nat := m.secondOfDay / 60 % 60

def second (m : Moment) : Nat := m.secondOfDay % 60

def clockHour (m : Moment) : Nat := (m.hour + 11) % 12 + 1

/-- The seconds of the epoch at which the same time is shown in universal time. -/
def universalSeconds (m : Moment) : Int := m.day * 86400 + m.secondOfDay

end Moment

namespace Pattern

/-! ## Putting in what a zone says -/

/-- Digits with zeros before them up to a width. -/
def padded (width n : Nat) : List Char :=
  let digits := Nat.toDigits 10 n
  List.replicate (width - digits.length) '0' ++ digits

/-- An offset as hours and minutes, and seconds if there are any. -/
def offsetText (offset : Int) : List Char :=
  let size := offset.natAbs
  (if offset < 0 then '-' else '+') :: (padded 2 (size / 3600) ++ padded 2 (size / 60 % 60) ++
    if size % 60 = 0 then [] else padded 2 (size % 60))

/-- The pattern with the offset, the name of the zone and the microseconds put
in. It ends at the first NUL. -/
def putIn (m : Moment) : List Char → List Char
  | [] => []
  | '%' :: 'z' :: rest => offsetText m.zone.offset ++ putIn m rest
  | '%' :: 'Z' :: rest =>
    (m.zone.name.toList.flatMap fun c => if c = '%' then ['%', '%'] else [c]) ++ putIn m rest
  | '%' :: 'f' :: rest => padded 6 m.micros ++ putIn m rest
  | '%' :: '\x00' :: _ => ['%']
  | '%' :: c :: rest => '%' :: c :: putIn m rest
  | c :: rest => if c = '\x00' then [] else c :: putIn m rest

/-! ## Directives -/

/-- A directive: its flags, width and modifier, its letter (none at the end of
the pattern), and how it is written. -/
structure Directive where
  padding : Option Char
  capitals : Bool
  otherCase : Bool
  width : Option Nat
  modifier : Option Char
  letter : Option Char
  source : List Char
  deriving Repr

/-- A part of a pattern. -/
inductive Part where
  | literal (c : Char)
  | directive (d : Directive)
  deriving Repr

def isFlag (c : Char) : Bool := ['_', '-', '0', '^', '#'].contains c

/-- Reads a directive after its percent sign, and says how many characters it
takes. -/
def readDirective (cs : List Char) : Directive × Nat :=
  let flags := cs.takeWhile isFlag
  let digits := (cs.drop flags.length).takeWhile Char.isDigit
  let rest := cs.drop (flags.length + digits.length)
  let modifier := rest.head?.filter fun c => c = 'E' ∨ c = 'O'
  let letter := if modifier.isSome then rest.tail.head? else rest.head?
  let length := flags.length + digits.length + modifier.toList.length + letter.toList.length
  (⟨(flags.filter fun c => c != '^' && c != '#').getLast?, flags.contains '^',
      flags.contains '#', if digits.isEmpty then none else some (number digits), modifier,
      letter, '%' :: cs.take length⟩, length)

/-- The parts of a pattern of which `skip` characters belong to a directive
already read. -/
def partsFrom : Nat → List Char → List Part
  | _, [] => []
  | skip + 1, _ :: rest => partsFrom skip rest
  | 0, c :: rest =>
    if c = '%' then
      let (d, length) := readDirective rest
      .directive d :: partsFrom length rest
    else .literal c :: partsFrom 0 rest

def parts (pattern : List Char) : List Part := partsFrom 0 pattern

/-! ## The text of a directive -/

def weekdayNames : List String :=
  ["Sunday", "Monday", "Tuesday", "Wednesday", "Thursday", "Friday", "Saturday"]

def monthNames : List String :=
  ["January", "February", "March", "April", "May", "June", "July", "August", "September",
   "October", "November", "December"]

/-- A name, or the first three letters of it. -/
def nameIn (names : List String) (short : Bool) (index : Nat) : List Char :=
  let name := (names.getD index "").toList
  if short then name.take 3 else name

namespace Directive

/-- The width, no greater than the room there is. -/
def breadth (d : Directive) (room : Nat) : Nat := min (d.width.getD 0) room

/-- A text brought to the width; zeros fill it up if they are asked for. -/
def place (d : Directive) (room : Nat) (cs : List Char) : List Char :=
  let fill := if d.padding = some '0' then '0' else ' '
  List.replicate (d.breadth room - cs.length) fill ++ cs

/-- A number with at least `least` digits, or the width; `blank` says that it is
filled up with blanks, unless a flag says otherwise. -/
def number (d : Directive) (room least : Nat) (blank : Bool) (n : Nat) : List Char :=
  let digits := Nat.toDigits 10 n
  let missing := max least (d.breadth room) - digits.length
  match d.padding with
  | some '-' => d.place room digits
  | some '_' => List.replicate missing ' ' ++ digits
  | some _ => List.replicate missing '0' ++ digits
  | none => List.replicate missing (if blank then ' ' else '0') ++ digits

/-- A text in the case that the flags ask for; `swapped` is what `#` does to it. -/
def cased (d : Directive) (swapped : Char → Char) (cs : List Char) : List Char :=
  if d.otherCase then cs.map swapped
  else if d.capitals then cs.map Char.toUpper
  else cs

/-- The directive as it is written, if it is not known. -/
def verbatim (d : Directive) (room : Nat) : List Char :=
  d.place room (if d.capitals then d.source.map Char.toUpper else d.source)

/-- The letters that take no `E`, those that take no `O`, and those that take
neither. -/
def accepts (letter : Char) (modifier : Option Char) : Bool :=
  match modifier with
  | none => true
  | some 'E' =>
    !(['%', 'a', 'A', 'D', 'F', 'b', 'h', 'B', 'd', 'e', 'H', 'I', 'k', 'l', 'j', 'M', 'm', 'S',
      'U', 'V', 'g', 'G', 'W', 'w'].contains letter)
  | some _ => !(['%', 'a', 'A', 'D', 'F', 'c', 'C', 'x', 'X', 'Y'].contains letter)

/-- The pattern that a letter abbreviates. -/
def pattern? : Char → Option String
  | 'c' => some "%a %b %e %H:%M:%S %Y"
  | 'D' => some "%m/%d/%y"
  | 'x' => some "%m/%d/%y"
  | 'F' => some "%Y-%m-%d"
  | 'R' => some "%H:%M"
  | 'r' => some "%I:%M:%S %p"
  | 'T' => some "%H:%M:%S"
  | 'X' => some "%H:%M:%S"
  | _ => none

def halfDay (m : Moment) : List Char := (if m.hour < 12 then "AM" else "PM").toList

/-- The text of a letter that stands for a single thing. -/
def single? (d : Directive) (m : Moment) (room : Nat) (letter : Char) : Option (List Char) :=
  let number := d.number room
  let place := d.place room
  match letter with
  | '%' => some (place ['%'])
  | 'n' => some (place ['\n'])
  | 't' => some (place ['\t'])
  | 'a' => some (place (d.cased Char.toUpper (nameIn weekdayNames true (weekday m.day))))
  | 'A' => some (place (d.cased Char.toUpper (nameIn weekdayNames false (weekday m.day))))
  | 'b' | 'h' => some (place (d.cased Char.toUpper (nameIn monthNames true (m.date.month - 1))))
  | 'B' => some (place (d.cased Char.toUpper (nameIn monthNames false (m.date.month - 1))))
  | 'p' => some (place (d.cased Char.toLower (halfDay m)))
  | 'P' => some (place ((halfDay m).map Char.toLower))
  | 'Y' => some (number 1 false m.date.year.toNat)
  | 'C' => some (number 1 false (m.date.year / 100).toNat)
  | 'y' => some (number 2 false (m.date.year % 100).toNat)
  | 'm' => some (number 2 false m.date.month)
  | 'd' => some (number 2 false m.date.day)
  | 'e' => some (number 2 true m.date.day)
  | 'H' => some (number 2 false m.hour)
  | 'k' => some (number 2 true m.hour)
  | 'I' => some (number 2 false m.clockHour)
  | 'l' => some (number 2 true m.clockHour)
  | 'M' => some (number 2 false m.minute)
  | 'S' => some (number 2 false m.second)
  | 'j' => some (number 3 false (dayInYear m.day + 1))
  | 'u' => some (number 1 false ((weekday m.day + 6) % 7 + 1))
  | 'w' => some (number 1 false (weekday m.day))
  | 'U' => some (number 2 false (weekFrom 0 m.day))
  | 'W' => some (number 2 false (weekFrom 1 m.day))
  | 'V' => some (number 2 false (thursdayWeek m.day).2)
  | 'G' => some (number 1 false (thursdayWeek m.day).1.toNat)
  | 'g' => some (number 2 false ((thursdayWeek m.day).1 % 100).toNat)
  | 's' => some (place (toString m.universalSeconds).toList)
  | 'z' => some (place ['+'] ++ number 4 false 0)
  | 'Z' => some (place (d.cased Char.toLower "UTC".toList))
  | _ => none

end Directive

def Part.singleText (m : Moment) (room : Nat) : Part → List Char
  | literal c => [c]
  | directive d =>
    match d.letter with
    | none => d.verbatim room
    | some letter =>
      if Directive.accepts letter d.modifier then
        (d.single? m room letter).getD (d.verbatim room)
      else d.verbatim room

def Part.text (m : Moment) (room : Nat) : Part → List Char
  | literal c => [c]
  | directive d =>
    match d.letter.filter (Directive.accepts · d.modifier) |>.bind Directive.pattern? with
    | none => (directive d).singleText m room
    | some pattern =>
      let inner := (parts pattern.toList).flatMap (Part.singleText m room)
      d.place room (if d.capitals then inner.map Char.toUpper else inner)

/-- How long the text of a pattern may be: the first of 1024, 2048, … that is at
least 256 times the length of the pattern. -/
def room (length : Nat) : Nat :=
  (((List.range 64).map fun k => 1024 * Nat.pow 2 k).find? fun size => 256 * length ≤ size).getD 0

/-- A moment under a pattern; nothing if the text gets too long. -/
def fill (pattern : String) (m : Moment) : String :=
  let filled := putIn m pattern.toList
  let size := room filled.length
  let text := (parts filled).flatMap (Part.text m size)
  if text.length < size then String.ofList text else ""

end Pattern

end Inlay.Time
