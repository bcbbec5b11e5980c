import Inlay.Number.Reading
import Inlay.Time.Calendar
import Inlay.Yaml.Fault
import Inlay.Yaml.Glyph

/-!
# Points in time

A calendar date, perhaps with a time of day, perhaps with an offset from
universal time. First the parts are read, then it is checked that there is such
a day and such a time.
-/

namespace Inlay.Yaml

/-- A time of day, with an offset from universal time in minutes if one is
known. -/
structure Clock where
  hour : Nat
  minute : Nat
  second : Nat
  micros : Nat
  offset? : Option Int
  deriving DecidableEq, Repr

/-- A date, perhaps with a time. -/
structure Moment where
  date : Time.Date
  clock? : Option Clock
  deriving DecidableEq, Repr

namespace Moment

/-! ## Reading -/

/-- Reads a number of `least` to `most` digits. -/
def digits (least most : Nat) (cs : List Char) : Option (Nat × List Char) :=
  let run := (cs.take most).takeWhile isDigit
  if run.length < least then none else some (Numeral.value run, cs.drop run.length)

/-- Takes a character that has to come next. -/
def expect (c : Char) : List Char → Option (List Char)
  | d :: rest => if c = d then some rest else none
  | [] => none

/-- What stands between a date and a time. -/
def afterDate : List Char → Option (List Char)
  | c :: rest =>
    if c = 'T' ∨ c = 't' then some rest
    else if isBlank c then some (rest.dropWhile isBlank)
    else none
  | [] => none

/-- The fraction of a second in microseconds; further digits are dropped. -/
def microsOf (fraction : List Char) : Nat :=
  Numeral.value (fraction.take 6 ++ List.replicate (6 - fraction.length) '0')

/-- Reads an offset from universal time; nothing is none. -/
def zone (cs : List Char) : Option (Option Int) :=
  match cs with
  | [] => some none
  | _ =>
    match cs.dropWhile isBlank with
    | ['Z'] => some (some 0)
    | sign :: rest =>
      if sign = '+' ∨ sign = '-' then do
        let (hour, rest) ← digits 1 2 rest
        let minute ← match rest with
          | [] => some 0
          | _ => do
            let (minute, rest) ← digits 2 2 (← expect ':' rest)
            if rest.isEmpty then some minute else none
        let size : Int := 60 * hour + minute
        return some (if sign = '-' then -size else size)
      else none
    | [] => none

/-- Reads a time of day. -/
def clock (cs : List Char) : Option Clock := do
  let (hour, rest) ← digits 1 2 cs
  let (minute, rest) ← digits 2 2 (← expect ':' rest)
  let (second, rest) ← digits 2 2 (← expect ':' rest)
  let (fraction, rest) := match rest with
    | '.' :: more => (more.takeWhile isDigit, more.dropWhile isDigit)
    | _ => ([], rest)
  let offset? ← zone rest
  return ⟨hour, minute, second, microsOf fraction, offset?⟩

/-- Reads the parts of a point in time. -/
def read (cs : List Char) : Option Moment := do
  let (year, rest) ← digits 4 4 cs
  let (month, rest) ← digits 1 2 (← expect '-' rest)
  let (day, rest) ← digits 1 2 (← expect '-' rest)
  let clock? ← match rest with
    | [] => some none
    | _ => (clock (← afterDate rest)).map some
  return ⟨⟨year, month, day⟩, clock?⟩

def fullDateLength : Nat := 10

/-- Whether a text is written like a point in time: a date without a time has to
be written in full. -/
def isWritten (cs : List Char) : Bool :=
  match read cs with
  | some m => m.clock?.isSome || cs.length == fullDateLength
  | none => false

/-! ## Checking -/

def lastYear : Int := 9999

def dateFault? (d : Time.Date) : Option MomentFault :=
  if d.year < 1 ∨ lastYear < d.year then some (.year d.year.toNat)
  else if d.month < 1 ∨ 12 < d.month then some .month
  else if d.day < 1 ∨ Time.monthLength d.year d.month < d.day then some .day
  else none

def offsetFault? (c : Clock) : Option MomentFault :=
  match c.offset? with
  | some minutes => if minutesPerDay ≤ minutes.natAbs then some (.offset minutes) else none
  | none => none

def clockFault? (c : Clock) : Option MomentFault :=
  if 23 < c.hour then some .hour
  else if 59 < c.minute then some .minute
  else if 59 < c.second then some .second
  else none

/-- What keeps the parts from being a point in time: the offset is looked at
first, then the date, then the time of day. -/
def fault? (m : Moment) : Option MomentFault :=
  match m.clock? with
  | none => dateFault? m.date
  | some c => offsetFault? c <|> dateFault? m.date <|> clockFault? c

/-- The point in time that a text names. -/
def ofText (cs : List Char) : Except Fault Moment :=
  match read cs with
  | none => .error .notMoment
  | some m =>
    match m.fault? with
    | some f => .error (.moment f)
    | none => .ok m

/-! ## Sameness -/

/-- The microseconds since the epoch of a date and time as a clock shows them. -/
def localMicros (d : Time.Date) (c : Clock) : Int :=
  ((d.toDay * 24 + c.hour) * 60 + c.minute) * 60000000 + c.second * 1000000 + c.micros

/-- Whether two values name the same point: with offsets the moments count,
without them what calendar and clock show. -/
def same (m n : Moment) : Bool :=
  match m.clock?, n.clock? with
  | none, none => m.date == n.date
  | some c, some e =>
    match c.offset?, e.offset? with
    | some x, some y =>
      localMicros m.date c - x * 60000000 == localMicros n.date e - y * 60000000
    | none, none => localMicros m.date c == localMicros n.date e
    | _, _ => false
  | _, _ => false

/-! ## Text -/

/-- A number with leading zeros. -/
def padded (width n : Nat) : String :=
  let digits := toString n
  String.ofList (List.replicate (width - digits.length) '0') ++ digits

def dateText (d : Time.Date) : String :=
  padded 4 d.year.toNat ++ "-" ++ padded 2 d.month ++ "-" ++ padded 2 d.day

def offsetText (minutes : Int) : String :=
  (if minutes < 0 then "-" else "+") ++ padded 2 (minutes.natAbs / 60) ++ ":" ++
    padded 2 (minutes.natAbs % 60)

def text (m : Moment) : String :=
  match m.clock? with
  | none => dateText m.date
  | some c =>
    dateText m.date ++ " " ++ padded 2 c.hour ++ ":" ++ padded 2 c.minute ++ ":" ++
      padded 2 c.second ++ (if c.micros = 0 then "" else "." ++ padded 6 c.micros) ++
      (match c.offset? with
       | some minutes => offsetText minutes
       | none => "")

def offsetRepresentation (minutes : Int) : String :=
  if minutes = 0 then "datetime.timezone.utc"
  else "datetime.timezone(" ++ spanText minutes ++ ")"

/-- A point in time inside other data: its numbers, without zeros for seconds
and microseconds at the end. -/
def representation (m : Moment) : String :=
  let date := [m.date.year.toNat, m.date.month, m.date.day]
  let listed (ns : List Nat) : String := ", ".intercalate (ns.map toString)
  match m.clock? with
  | none => "datetime.date(" ++ listed date ++ ")"
  | some c =>
    let small :=
      if c.micros ≠ 0 then [c.second, c.micros] else if c.second ≠ 0 then [c.second] else []
    "datetime.datetime(" ++ listed (date ++ [c.hour, c.minute] ++ small) ++
      (match c.offset? with
       | some minutes => ", tzinfo=" ++ offsetRepresentation minutes
       | none => "") ++ ")"

end Moment

end Inlay.Yaml
