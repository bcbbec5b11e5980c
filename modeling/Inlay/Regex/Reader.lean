import Inlay.Regex.Escape
import Inlay.Text.Blank
import Inlay.Text.NameTable

/-!
# The grammar of regular expressions

Alternatives of sequences of parts, each perhaps repeated. The text is read
from left to right, and the first fault ends the reading. Groups may nest no
deeper than there are characters, which bounds the reading.
-/

namespace Inlay.Regex

namespace Reader

/-! ## Sets -/

def setItem (unit : List Char) : Reader SetItem :=
  match unit with
  | ['\\', c] => setEscape c
  | c :: _ => return .code c.toNat
  | [] => return .code 0

def setUnit (start : Nat) : Reader (List Char) := do
  match ← take with
  | some unit => return unit
  | none => failAt .unterminatedSet start

/-- The items of a set up to its end. A closing bracket that comes first is an
item, and a hyphen that comes last is one too. -/
def setItems (start : Nat) (items : List SetItem) : Nat → Reader (List SetItem)
  | 0 => failAt .unterminatedSet start
  | steps + 1 => do
    let unit ← setUnit start
    if unit = [']'] && !items.isEmpty then return items.reverse
    let first ← setItem unit
    if ← skip '-' then
      let lastUnit ← setUnit start
      if lastUnit = [']'] then return (.code '-'.toNat :: first :: items).reverse
      let last ← setItem lastUnit
      match first, last with
      | .code low, .code high =>
        if high < low then
          fail (.badRange unit lastUnit) (unit.length + 1 + lastUnit.length)
        else setItems start (.range low high :: items) steps
      | _, _ => fail (.badRange unit lastUnit) (unit.length + 1 + lastUnit.length)
    else setItems start (first :: items) steps

/-- A set after its opening bracket. A set of one character is that character. -/
def readSet : Reader Node := do
  let start := (← tell) - 1
  let negated ← skip '^'
  match (← setItems start [] (← unitsLeft)).eraseDups with
  | [.code n] => return .literal n negated
  | items => return .set items negated

/-! ## Repetitions -/

/-- How often a part is repeated, and where the sign that says so starts. -/
structure Times where
  least : Nat
  most : Option Nat

/-- The greatest number of repetitions; it must not be reached. -/
def repeatLimit : Nat := 0xFFFFFFFF

/-- A number of repetitions. -/
def repeatCount (digits : List Char) : Reader Nat := do
  if Numeral.digitLimit < digits.length then throw ⟨.numeralTooLong digits.length, none⟩
  let n := Numeral.value digits
  if repeatLimit ≤ n then throw ⟨.repeatTooLarge, none⟩
  return n

/-- Bounds in braces, after the opening one; none if the brace is no sign of a
repetition, and then nothing is taken. -/
def bounds? : Reader (Option Times) := do
  let start ← tell
  if (← peek) = some ['\x7d'] then return none
  let low ← takeWhile isDecimal (← unitsLeft)
  let (high, open?) ← if ← skip ',' then
      pure (← takeWhile isDecimal (← unitsLeft), true)
    else pure (low, false)
  if !(← skip '\x7d') then
    seek start
    return none
  let least ← if low.isEmpty then pure 0 else repeatCount low
  if high.isEmpty then return some ⟨least, none⟩
  let most ← repeatCount high
  if open? && most < least then failAt .reversedRepeat start
  return some ⟨least, some most⟩

/-- What a sign of repetition says; none if a brace is just a brace. -/
def times? (sign : Char) : Reader (Option Times) :=
  match sign with
  | '?' => return some ⟨0, some 1⟩
  | '*' => return some ⟨0, none⟩
  | '+' => return some ⟨1, none⟩
  | _ => bounds?

/-- The parts read so far (last first) with the last of them repeated. -/
def repeatLast (start : Nat) (t : Times) (parts : List Node) : Reader (List Node) := do
  match parts with
  | [] => failAt .nothingToRepeat start
  | .anchor _ :: _ => failAt .nothingToRepeat start
  | .repetition .. :: _ => failAt .repeatOfRepeat start
  | last :: before =>
    let greed ← if ← skip '?' then pure Greed.lazy
      else if ← skip '+' then pure Greed.possessive
      else pure Greed.greedy
    return .repetition greed t.least t.most last.ungrouped :: before

/-! ## Flags -/

/-- Fails for a unit that is no flag: an unknown letter, or something else in
place of `what`. -/
def notFlag {α : Type} (unit : List Char) (what : String) : Reader α :=
  let isLetter := match unit with
    | [c] => Text.isLetter c
    | _ => false
  fail (if isLetter then .unknownFlag else .missing what) unit.length

/-- The flag of a unit, if it is one. The flag for locales is known but refused. -/
def flagOf? (unit : List Char) : Option (Option Flags) :=
  match unit with
  | ['L'] => some none
  | [c] => (Flags.ofLetter? c).map some
  | _ => none

/-- Flags that are added, from a letter up to `)`, `-` or `:`, with that sign. -/
def addedFlags (unit : List Char) (flags : Flags) : Nat → Reader (Flags × Char)
  | 0 => fail (.missing "-, : or )") 0
  | steps + 1 => do
    match flagOf? unit with
    | none => notFlag unit "-, : or )"
    | some none => fail .localeFlag 0
    | some (some flag) =>
      let flags := flags.union flag
      if flag.meets .types && (flags.without flag).meets .types then fail .exclusiveFlags 0
      match ← take with
      | none => fail (.missing "-, : or )") 0
      | some [')'] => return (flags, ')')
      | some ['-'] => return (flags, '-')
      | some [':'] => return (flags, ':')
      | some unit => addedFlags unit flags steps

def removedFlags (unit : List Char) (flags : Flags) : Nat → Reader Flags
  | 0 => fail (.missing ":") 0
  | steps + 1 => do
    match flagOf? unit with
    | none => notFlag unit (if flags = {} then "flag" else ":")
    | some none => fail .typeFlagOff 0
    | some (some flag) =>
      if flag.meets .types then fail .typeFlagOff 0
      let flags := flags.union flag
      match ← take with
      | none => fail (.missing ":") 0
      | some [':'] => return flags
      | some unit => removedFlags unit flags steps

/-- The flags of a group, from their first unit: those added and those removed.
None if they hold for the whole expression, to which they have then been
added. -/
def readFlags (unit : List Char) : Reader (Option (Flags × Flags)) := do
  let (added, sign) ←
    if unit = ['-'] then pure ({}, '-') else addedFlags unit {} (← unitsLeft)
  if sign = ')' then
    modify fun r => { r with flags := r.flags.union added }
    return none
  if added.template then fail .globalFlagOn 1
  let removed ← if sign = '-' then do
      match ← take with
      | none => fail (.missing "flag") 0
      | some unit => removedFlags unit {} (← unitsLeft)
    else pure {}
  if removed.template then fail .globalFlagOff 1
  if added.meets removed then fail .flagOnAndOff 1
  return some (added, removed)

/-! ## Groups -/

/-- What the start of a group announces. -/
inductive GroupStart where
  | capturing (name : Option (List Char))
  | plain (added removed : Flags)
  | atomic
  | look (behind negated : Bool)
  | condition (group : Nat)
  | reference (group : Nat)
  | comment
  | globalFlags

def checkName (name : List Char) : Reader Unit :=
  if Text.isName name then pure () else fail (.badGroupName name) (name.length + 1)

def readName (terminator : Char) : Reader (List Char) := do
  let name ← takeUntil terminator "group name" [] (← unitsLeft)
  checkName name
  return name

def groupNamed (name : List Char) : Reader Nat := do
  match (← get).names.lookup name with
  | some number => return number
  | none => fail (.unknownName name) (name.length + 1)

/-- What follows `(?P`. -/
def namedStart : Reader GroupStart := do
  if ← skip '<' then return .capturing (some (← readName '>'))
  else if ← skip '=' then
    let name ← readName ')'
    let number ← groupNamed name
    if !(← isClosed number) then fail .openGroup (name.length + 1)
    checkLookbehind number
    return .reference number
  else
    match ← take with
    | none => fail .unexpectedEnd 0
    | some unit => fail (.unknownExtension ('P' :: unit)) (unit.length + 2)

/-- No group has this number or a higher one. -/
def groupLimit : Int := 0x7FFFFFFF

/-- What follows `(?(`: the name or number of a group. -/
def conditionStart : Reader GroupStart := do
  let name ← takeUntil ')' "group name" [] (← unitsLeft)
  let number ← if Text.isName name then groupNamed name
    else match Numeral.readInteger (Text.trim name) with
      | .ok n =>
        if n < 0 then fail (.badGroupName name) (name.length + 1)
        else if n = 0 then fail .badGroupNumber (name.length + 1)
        else if groupLimit ≤ n then fail (.noSuchGroup n.toNat) (name.length + 1)
        else do
          let position := (← tell) - name.length - 1
          modify fun r =>
            if (r.asked.lookup n.toNat).isSome then r
            else { r with asked := r.asked ++ [(n.toNat, position)] }
          pure n.toNat
      | .error _ => fail (.badGroupName name) (name.length + 1)
  checkLookbehind number
  return .condition number

/-- Passes over a comment that starts at a given place. -/
def skipComment (start : Nat) : Nat → Reader Unit
  | 0 => failAt .unterminatedComment start
  | steps + 1 => do
    match ← peek with
    | none => failAt .unterminatedComment start
    | some unit =>
      discard take
      if unit = [')'] then pure () else skipComment start steps

/-- What follows `(?<`. -/
def lookbehindStart : Reader GroupStart := do
  match ← take with
  | none => fail .unexpectedEnd 0
  | some ['='] => return .look true false
  | some ['!'] => return .look true true
  | some unit => fail (.unknownExtension ('<' :: unit)) (unit.length + 2)

/-- What a group announces after its parenthesis, which is at a given place. -/
def groupStart (start : Nat) : Reader GroupStart := do
  if !(← skip '?') then return .capturing none
  match ← take with
  | none => fail .unexpectedEnd 0
  | some ['P'] => namedStart
  | some [':'] => return .plain {} {}
  | some ['#'] =>
    skipComment start (← unitsLeft)
    return .comment
  | some ['='] => return .look false false
  | some ['!'] => return .look false true
  | some ['<'] => lookbehindStart
  | some ['('] => conditionStart
  | some ['>'] => return .atomic
  | some unit =>
    if unit = ['-'] || (flagOf? unit).isSome then
      match ← readFlags unit with
      | some (added, removed) => return .plain added removed
      | none => return .globalFlags
    else fail (.unknownExtension unit) (unit.length + 1)

/-- Takes the parenthesis that closes the group which starts at a given place. -/
def closing (start : Nat) : Reader Unit := do
  if !(← skip ')') then failAt .unterminatedGroup start

/-- Passes over a comment to the end of its line. -/
def skipLine : Nat → Reader Unit
  | 0 => pure ()
  | steps + 1 => do
    match ← take with
    | none => pure ()
    | some unit => if unit = ['\n'] then pure () else skipLine steps

/-- White space that verbose expressions pass over. -/
def isSpace (c : Char) : Bool := [' ', '\t', '\n', '\r', '\x0b', '\x0c'].contains c

/-! ## Sequences and alternatives -/

mutual

/-- Alternatives. `top` says that they are the whole expression, where a flag
may change whether spaces count. -/
def alternatives : Nat → Bool → Bool → List (List Node) → Reader (List Node)
  | 0, _, _, _ => throw ⟨.unexpectedEnd, none⟩
  | depth + 1, verbose, top, before => do
    let branch ← sequence depth verbose (top && before.isEmpty) []
    if ← skip '|' then
      let flags := (← get).flags
      let verbose := if top then flags.verbose else verbose
      alternatives depth verbose top (branch :: before)
    else if before.isEmpty then return branch
    else return [.alternatives (branch :: before).reverse]

/-- Parts up to the end of a branch, put before those in `parts` (last first).
`first` says that flags for the whole expression may still come. -/
def sequence : Nat → Bool → Bool → List Node → Reader (List Node)
  | 0, _, _, _ => throw ⟨.unexpectedEnd, none⟩
  | depth + 1, verbose, first, parts => do
    let start ← tell
    match ← peek with
    | none => return parts.reverse.flatMap Node.ungrouped
    | some ['|'] => return parts.reverse.flatMap Node.ungrouped
    | some [')'] => return parts.reverse.flatMap Node.ungrouped
    | some unit =>
      discard take
      let goOn (n : Node) : Reader (List Node) := sequence depth verbose first (n :: parts)
      match unit with
      | ['\\', c] => goOn (← escape c)
      | [c] =>
        if verbose && isSpace c then sequence depth verbose first parts
        else if verbose && c = '#' then
          skipLine (← unitsLeft)
          sequence depth verbose first parts
        else if c = '[' then goOn (← readSet)
        else if ['*', '+', '?', '\x7b'].contains c then
          match ← times? c with
          | none => goOn (.literal c.toNat false)
          | some t => sequence depth verbose first (← repeatLast start t parts)
        else if c = '.' then goOn .any
        else if c = '^' then goOn (.anchor .start)
        else if c = '$' then goOn (.anchor .finish)
        else if c = '(' then
          match ← groupStart start with
          | .comment => sequence depth verbose first parts
          | .reference n => goOn (.reference n)
          | .globalFlags =>
            if !first || !parts.isEmpty then failAt .misplacedFlags start
            sequence depth (← get).flags.verbose first parts
          | .look behind negated =>
            let outer := (← get).lookbehind
            if behind && outer.isNone then
              modify fun r => { r with lookbehind := some r.groups.size }
            let body ← alternatives depth verbose false []
            if behind then modify fun r => { r with lookbehind := outer }
            closing start
            let width := Node.widthOf (← get).groups body
            goOn (.look (if behind then some width else none) negated body)
          | .condition n =>
            let yes ← sequence depth verbose false []
            let no ← if ← skip '|' then do
                let no ← sequence depth verbose false []
                if (← peek) = some ['|'] then fail .tooManyBranches 0
                pure no
              else pure []
            closing start
            goOn (.condition n yes no)
          | .atomic =>
            let body ← alternatives depth verbose false []
            closing start
            goOn (.atomic body)
          | .plain added removed =>
            let inner := (verbose || added.verbose) && !removed.verbose
            let body ← alternatives depth inner false []
            closing start
            goOn (.group none added removed body)
          | .capturing name =>
            let number ← openGroup name
            let body ← alternatives depth verbose false []
            closing start
            closeGroup number body
            goOn (.group (some number) {} {} body)
        else goOn (.literal c.toNat false)
      | _ => sequence depth verbose first parts

end

/-- The flags of a whole expression: letters are those of any script unless only
those of ASCII are asked for; both cannot be. -/
def settle (flags : Flags) : Except Fault Flags :=
  if !flags.ascii then .ok { flags with unicode := true }
  else if flags.unicode then .error ⟨.asciiAndUnicode, none⟩
  else .ok flags

end Reader

/-! ## Checks on the whole -/

namespace Node

/-- The name of a repetition in the message that refuses it. -/
def operatorName : Greed → String
  | .greedy => "MAX_REPEAT"
  | .lazy => "MIN_REPEAT"
  | .possessive => "POSSESSIVE_REPEAT"

/-- The greatest width of a look-behind. -/
def lookbehindLimit : Nat := 0xFFFFFFFF

/-- Refuses a look-behind whose width is not fixed. -/
def checkBehind : Option Width → Except Fault Unit
  | none => .ok ()
  | some w =>
    if lookbehindLimit < w.least then .error ⟨.lookbehindTooLong, none⟩
    else if w.least ≠ w.most then .error ⟨.variableLookbehind, none⟩
    else .ok ()

mutual

/-- Refuses parts that cannot be matched under the flags. -/
def check (flags : Flags) : Node → Except Fault Unit
  | literal _ _ => .ok ()
  | set _ _ => .ok ()
  | any => .ok ()
  | anchor _ => .ok ()
  | reference _ => .ok ()
  | alternatives branches => checkBranches flags branches
  | group _ added removed body => checkAll (flags.within added removed) body
  | atomic body => checkAll flags body
  | repetition greed _ _ body =>
    if flags.template then .error ⟨.templateRepeat (operatorName greed), none⟩
    else checkAll flags body
  | look behind _ body => do
    checkBehind behind
    checkAll flags body
  | condition _ yes no => do
    checkAll flags yes
    checkAll flags no

def checkAll (flags : Flags) : List Node → Except Fault Unit
  | [] => .ok ()
  | n :: rest => do
    check flags n
    checkAll flags rest

def checkBranches (flags : Flags) : List (List Node) → Except Fault Unit
  | [] => .ok ()
  | branch :: rest => do
    checkAll flags branch
    checkBranches flags rest

end

end Node

/-- The whole expression, up to the end of its text. -/
def Reader.expression : Reader Expression := do
  Reader.seek 0
  let size := (← get).source.size
  let parts ← Reader.alternatives (2 * size + 4) false true []
  let r ← get
  let flags ← Reader.settle r.flags
  if r.next.isSome then Reader.fail .unbalanced 0
  match r.asked.find? fun asked => r.groups.size ≤ asked.1 with
  | some (number, position) => Reader.failAt (.noSuchGroup number) position
  | none => pure ()
  Node.checkAll flags parts
  return ⟨parts, flags, r.groups.size⟩

def Expression.read (source : String) : Except Fault Expression :=
  (Reader.expression.run ⟨source.toList.toArray, none, 0, #[none], [], none, [], {}⟩).map
    (·.1)

end Inlay.Regex
