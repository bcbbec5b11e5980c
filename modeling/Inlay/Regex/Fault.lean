import Inlay.FaultClass
import Inlay.Number.Reading

/-!
# Why a text is no regular expression

Each cause with its message. Most are found at a place of the text, which the
message names; if the text has several lines, the line and column are named
too.
-/

namespace Inlay.Regex

/-- What is wrong. Names, escapes and extensions are held as they are written. -/
inductive Cause where
  | backslashAtEnd
  | missing (what : String)
  | unterminatedName (terminator : Char)
  | badGroupName (name : List Char)
  | incompleteEscape (escape : List Char)
  | unknownCharacter (name : List Char)
  | octalTooLarge (escape : List Char)
  | badEscape (escape : List Char)
  | openGroup
  | sameLookbehind
  | noSuchGroup (number : Nat)
  | unterminatedSet
  | badRange (first last : List Char)
  | reversedRepeat
  | nothingToRepeat
  | repeatOfRepeat
  | unexpectedEnd
  | unknownName (name : List Char)
  | unknownExtension (written : List Char)
  | unterminatedComment
  | unterminatedGroup
  | badGroupNumber
  | tooManyBranches
  | misplacedFlags
  | repeatedName (name : List Char) (number first : Nat)
  | unknownFlag
  | localeFlag
  | exclusiveFlags
  | globalFlagOn
  | globalFlagOff
  | typeFlagOff
  | flagOnAndOff
  | unbalanced
  | variableLookbehind
  | lookbehindTooLong
  | templateRepeat (operator : String)
  | repeatTooLarge
  | numeralTooLong (digits : Nat)
  | asciiAndUnicode
  deriving DecidableEq, Repr

namespace Cause

/-- The message of a cause, without its place. -/
def text : Cause → String
  | backslashAtEnd => "bad escape (end of pattern)"
  | missing what => "missing " ++ what
  | unterminatedName terminator =>
    "missing " ++ String.singleton terminator ++ ", unterminated name"
  | badGroupName name => "bad character in group name " ++ Text.quoted (String.ofList name)
  | incompleteEscape escape => "incomplete escape " ++ String.ofList escape
  | unknownCharacter name => "undefined character name " ++ Text.quoted (String.ofList name)
  | octalTooLarge escape =>
    "octal escape value " ++ String.ofList escape ++ " outside of range 0-0o377"
  | badEscape escape => "bad escape " ++ String.ofList escape
  | openGroup => "cannot refer to an open group"
  | sameLookbehind =>
    "cannot refer to group defined in the same lookbehind subpattern"
  | noSuchGroup number => "invalid group reference " ++ toString number
  | unterminatedSet => "unterminated character set"
  | badRange first last =>
    "bad character range " ++ String.ofList first ++ "-" ++ String.ofList last
  | reversedRepeat => "min repeat greater than max repeat"
  | nothingToRepeat => "nothing to repeat"
  | repeatOfRepeat => "multiple repeat"
  | unexpectedEnd => "unexpected end of pattern"
  | unknownName name => "unknown group name " ++ Text.quoted (String.ofList name)
  | unknownExtension written => "unknown extension ?" ++ String.ofList written
  | unterminatedComment => "missing ), unterminated comment"
  | unterminatedGroup => "missing ), unterminated subpattern"
  | badGroupNumber => "bad group number"
  | tooManyBranches => "conditional backref with more than two branches"
  | misplacedFlags => "global flags not at the start of the expression"
  | repeatedName name number first =>
    "redefinition of group name " ++ Text.quoted (String.ofList name) ++ " as group " ++
      toString number ++ "; was group " ++ toString first
  | unknownFlag => "unknown flag"
  | localeFlag => "bad inline flags: cannot use 'L' flag with a str pattern"
  | exclusiveFlags => "bad inline flags: flags 'a', 'u' and 'L' are incompatible"
  | globalFlagOn => "bad inline flags: cannot turn on global flag"
  | globalFlagOff => "bad inline flags: cannot turn off global flag"
  | typeFlagOff => "bad inline flags: cannot turn off flags 'a', 'u' and 'L'"
  | flagOnAndOff => "bad inline flags: flag turned on and off"
  | unbalanced => "unbalanced parenthesis"
  | variableLookbehind => "look-behind requires fixed-width pattern"
  | lookbehindTooLong => "looks too much behind"
  | templateRepeat operator => "internal: unsupported template operator " ++ operator
  | repeatTooLarge => "the repetition number is too large"
  | numeralTooLong digits => Numeral.tooLongText digits
  | asciiAndUnicode => "ASCII and UNICODE flags are incompatible"

def faultClass : Cause → FaultClass
  | repeatTooLarge => .overflow
  | numeralTooLong _ => .badValue
  | asciiAndUnicode => .badValue
  | _ => .badPattern

end Cause

/-- A cause, and the place where it was found, if it has one. -/
structure Fault where
  cause : Cause
  position : Option Nat
  deriving DecidableEq, Repr

/-- The message of a fault in a regular expression. -/
def Fault.text (f : Fault) (source : List Char) : String :=
  match f.position with
  | none => f.cause.text
  | some position =>
    let before := source.take position
    let message := f.cause.text ++ " at position " ++ toString position
    if source.contains '\n' then
      let column := (before.reverse.takeWhile (· != '\n')).length + 1
      message ++ " (line " ++ toString (before.count '\n' + 1) ++ ", column " ++
        toString column ++ ")"
    else message

end Inlay.Regex
