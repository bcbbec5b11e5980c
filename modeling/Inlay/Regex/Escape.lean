import Inlay.Regex.Source
import Inlay.Number.Reading

/-!
# Escapes in regular expressions

A backslash makes a special character ordinary, gives a character by its code,
or stands with a letter for a class of characters, a place or a control
character; with digits it refers to a group or gives a code in octal.
-/

namespace Inlay.Regex

namespace Reader

def isOctal (c : Char) : Bool := '0' ≤ c && c ≤ '7'

def isDecimal (c : Char) : Bool := '0' ≤ c && c ≤ '9'

def isHex (c : Char) : Bool := (Text.hexDigit? c).isSome

def isAsciiLetter (c : Char) : Bool := ('a' ≤ c && c ≤ 'z') || ('A' ≤ c && c ≤ 'Z')

def octalNumber (digits : List Char) : Nat :=
  digits.foldl (fun n c => 8 * n + (c.toNat - 0x30)) 0

/-- The control characters that letters stand for. -/
def controlOf? : Char → Option Nat
  | 'a' => some 0x7
  | 'b' => some 0x8
  | 'f' => some 0xC
  | 'n' => some 0xA
  | 'r' => some 0xD
  | 't' => some 0x9
  | 'v' => some 0xB
  | '\\' => some 0x5C
  | _ => none

/-- The classes of characters that letters stand for. -/
def categoryOf? : Char → Option SetItem
  | 'd' => some (.category .digit false)
  | 'D' => some (.category .digit true)
  | 's' => some (.category .space false)
  | 'S' => some (.category .space true)
  | 'w' => some (.category .word false)
  | 'W' => some (.category .word true)
  | _ => none

/-- The places that letters stand for. -/
def anchorOf? : Char → Option Anchor
  | 'A' => some .textStart
  | 'b' => some .wordEdge
  | 'B' => some .notWordEdge
  | 'Z' => some .textEnd
  | _ => none

/-- A code of exactly `count` hexadecimal digits after a letter. -/
def hexCode (letter : Char) (count : Nat) : Reader Nat := do
  let digits ← takeWhile isHex count
  let escape := '\\' :: letter :: digits
  if digits.length < count then fail (.incompleteEscape escape) escape.length
  let code := Text.hexNumber digits
  if 0x10FFFF < code then fail (.badEscape escape) escape.length
  return code

/-- A character by its name in braces. No names are known. -/
def namedCode : Reader Nat := do
  if !(← skip '\x7b') then fail (.missing "\x7b") 0
  let name ← takeUntil '\x7d' "character name" [] (← unitsLeft)
  fail (.unknownCharacter name) (name.length + 4)

def announcedCode? (letter : Char) : Reader (Option Nat) := do
  match letter with
  | 'x' => return some (← hexCode letter 2)
  | 'u' => return some (← hexCode letter 4)
  | 'U' => return some (← hexCode letter 8)
  | 'N' => return some (← namedCode)
  | _ => return none

/-- The character after a backslash stands for itself, unless it is an ASCII
letter. -/
def itself (c : Char) : Reader Nat :=
  if isAsciiLetter c then fail (.badEscape ['\\', c]) 2 else return c.toNat

def setEscape (c : Char) : Reader SetItem := do
  match controlOf? c, categoryOf? c with
  | some code, _ => return .code code
  | none, some item => return item
  | none, none =>
    if let some code ← announcedCode? c then return .code code
    if isOctal c then
      let digits := c :: (← takeWhile isOctal 2)
      let code := octalNumber digits
      if 0o377 < code then fail (.octalTooLarge ('\\' :: digits)) (digits.length + 1)
      return .code code
    if isDecimal c then fail (.badEscape ['\\', c]) 2
    return .code (← itself c)

def groupReference (digits : List Char) : Reader Node := do
  let number := Numeral.value digits
  if (← get).groups.size ≤ number then fail (.noSuchGroup number) digits.length
  if !(← isClosed number) then fail .openGroup (digits.length + 1)
  checkLookbehind number
  return .reference number

/-- Digits after a backslash: a code in octal if they start with zero or are
three octal digits, otherwise a reference to a group. -/
def digitEscape (c : Char) : Reader Node := do
  if c = '0' then
    return .literal (octalNumber (← takeWhile isOctal 2)) false
  let second ← takeWhile isDecimal 1
  if isOctal c && !second.isEmpty && second.all isOctal then
    let third ← takeWhile isOctal 1
    if !third.isEmpty then
      let digits := c :: second ++ third
      let code := octalNumber digits
      if 0o377 < code then fail (.octalTooLarge ('\\' :: digits)) (digits.length + 1)
      return .literal code false
  groupReference (c :: second)

def escape (c : Char) : Reader Node := do
  match anchorOf? c, categoryOf? c, controlOf? c with
  | some a, _, _ => return .anchor a
  | none, some item, _ => return .set [item] false
  | none, none, some code => return .literal code false
  | none, none, none =>
    if let some code ← announcedCode? c then return .literal code false
    if isDecimal c then digitEscape c
    else return .literal (← itself c) false

end Reader

end Inlay.Regex
