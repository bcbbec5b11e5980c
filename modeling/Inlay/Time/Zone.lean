import Inlay.Text.Ranges
import Inlay.Time.Calendar

/-!
# Time zones

A zone has kept one local time after another, and from some moment on follows
a yearly rule. The moments of change are listed; the yearly rule is written
as in `CET-1CEST,M3.5.0,M10.5.0/3`: names and offsets (counted to the west),
and the two days of the year, with times, on which summer time starts and ends.
-/

namespace Inlay.Time

/-- A local time: how many seconds it is ahead of universal time, and its name. -/
structure LocalTime where
  offset : Int
  name : String
  deriving DecidableEq, Repr, Inhabited

/-- A day that recurs every year: a weekday of a month's first to fourth or last
week, a day counted from one without leap days, or a day counted from zero. -/
inductive YearlyDay where
  | weekdayOf (month nth weekday : Nat)
  | withoutLeap (n : Nat)
  | counted (n : Nat)
  deriving DecidableEq, Repr

/-- A yearly change of local time, at so many seconds of the wall clock's day. -/
structure Change where
  day : YearlyDay
  seconds : Int
  deriving DecidableEq, Repr

/-- Local time without end: always the same, or summer time between two changes. -/
inductive YearlyRule where
  | constant (always : LocalTime)
  | alternating (standard summer : LocalTime) (starts ends : Change)
  deriving DecidableEq, Repr

/-- A zone: the local time before the first change, the changes and the rule
after the last one. -/
structure Zone where
  first : LocalTime
  changes : List (Int × LocalTime)
  rule : YearlyRule
  deriving Repr

namespace YearlyDay

def inYear (year : Int) : YearlyDay → Int
  | weekdayOf month nth weekday =>
    let start := Date.toDay ⟨year, month, 1⟩
    let first := (weekday + 7 - Time.weekday start) % 7
    let wanted := first + 7 * (nth - 1)
    start + (if wanted < monthLength year month then wanted else wanted - 7 : Nat)
  | withoutLeap n => yearStart year + n - (if isLeapYear year && 60 ≤ n then 0 else 1)
  | counted n => yearStart year + n

end YearlyDay

def YearlyRule.at (rule : YearlyRule) (moment : Int) : LocalTime :=
  match rule with
  | constant always => always
  | alternating standard summer starts ends =>
    let year := yearOfDay (moment / 86400)
    let opening := starts.day.inYear year * 86400 + starts.seconds - standard.offset
    let closing := ends.day.inYear year * 86400 + ends.seconds - summer.offset
    let isSummer :=
      if opening < closing then opening ≤ moment && moment < closing
      else !(closing ≤ moment && moment < opening)
    if isSummer then summer else standard

def Zone.at (z : Zone) (moment : Int) : LocalTime :=
  match z.changes.getLast? with
  | none => z.rule.at moment
  | some last =>
    if last.1 < moment then z.rule.at moment
    else
      match (z.changes.takeWhile fun change => change.1 ≤ moment).getLast? with
      | none => z.first
      | some change => change.2

/-! ## Reading zones -/

/-- The number that decimal digits spell. -/
def number (cs : List Char) : Nat := cs.foldl (fun n c => 10 * n + (c.toNat - 0x30)) 0

/-- Splits off a name: letters, or anything in angle brackets. -/
def splitName (cs : List Char) : String × List Char :=
  match cs with
  | '<' :: rest =>
    let name := rest.takeWhile (· != '>')
    (String.ofList name, rest.drop (name.length + 1))
  | _ =>
    let name := cs.takeWhile Char.isAlpha
    (String.ofList name, cs.drop name.length)

/-- A span of hours, minutes and seconds, perhaps with a sign, in seconds. -/
def span (cs : List Char) : Int :=
  let size (digits : List Char) : Int :=
    match (Text.cutAt (· == ':') digits).map number with
    | [h] => h * 3600
    | [h, m] => h * 3600 + m * 60
    | [h, m, s] => h * 3600 + m * 60 + s
    | _ => 0
  match cs with
  | '-' :: rest => -size rest
  | '+' :: rest => size rest
  | rest => size rest

/-- A yearly day with an optional time, which is two o'clock otherwise. -/
def Change.read (cs : List Char) : Change :=
  let (day, time) := match Text.cutAt (· == '/') cs with
    | [day, time] => (day, span time)
    | _ => (cs, 7200)
  let when := match day with
    | 'M' :: rest =>
      match (Text.cutAt (· == '.') rest).map number with
      | [m, w, d] => YearlyDay.weekdayOf m w d
      | _ => .counted 0
    | 'J' :: rest => .withoutLeap (number rest)
    | rest => .counted (number rest)
  ⟨when, time⟩

/-- A yearly rule. Summer time is an hour ahead unless its offset is given. -/
def YearlyRule.read (cs : List Char) : YearlyRule :=
  let (head, changes) := match Text.cutAt (· == ',') cs with
    | [head, starts, ends] => (head, some (starts, ends))
    | _ => (cs, none)
  let (name, rest) := splitName head
  let isSpan (c : Char) : Bool := c.isDigit || c == ':' || c == '-' || c == '+'
  let offset := -span (rest.takeWhile isSpan)
  match changes with
  | none => .constant ⟨offset, name⟩
  | some (starts, ends) =>
    let (summerName, more) := splitName (rest.dropWhile isSpan)
    let summerOffset := if more.isEmpty then offset + 3600 else -span more
    .alternating ⟨offset, name⟩ ⟨summerOffset, summerName⟩ (.read starts) (.read ends)

/-- The moment from which the first change of a record is counted. -/
def recordOrigin : Int := -8589600000

/-- Reads the changes of a record. Each has the letter of its local time and the
time since the last one: after a small letter in quarters of an hour, after a
capital in seconds, both in hexadecimal. -/
def readChanges (times : Array LocalTime) : Int → List (List Char) → List (Int × LocalTime)
  | _, [] => []
  | previous, [] :: rest => readChanges times previous rest
  | previous, (letter :: digits) :: rest =>
    let small := letter.isLower
    let index := letter.toNat - (if small then 'a' else 'A').toNat
    let moment := previous + Text.hexNumber digits * (if small then 900 else 1)
    (moment, times.getD index default) :: readChanges times moment rest

/-- Reads a local time, as in `-968:LMT`. -/
def LocalTime.read (cs : List Char) : LocalTime :=
  let digits := cs.takeWhile (· != ':')
  let offset : Int := match digits with
    | '-' :: rest => -(number rest : Int)
    | rest => number rest
  ⟨offset, String.ofList (cs.drop (digits.length + 1))⟩

/-- Reads the words of a record after its names: the rule, the local times
beginning with the first, and the changes. -/
def Zone.read (words : List (List Char)) : Zone :=
  match words with
  | rule :: times :: changes =>
    let times := ((Text.cutAt (· == ',') times).map LocalTime.read).toArray
    ⟨times.getD 0 default, readChanges times recordOrigin changes, .read rule⟩
  | _ => ⟨default, [], .constant default⟩

end Inlay.Time
