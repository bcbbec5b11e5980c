import Inlay.Text.Quoted
import Inlay.Token

/-!
# Why a text is no template

The first token that does not fit ends the reading. What was expected there is
part of the fault.
-/

namespace Inlay

/-- What the grammar allows at a place where something else stands. -/
inductive Expectation where
  | openingMark
  | closingMark
  | expression
  | memberName
  | parameterName
  | adjacentNumber
  | parenAfterIf
  | parenAfterFn
  | comma
  | colon
  | arrow
  | rightParen
  | rightBracket
  | rightBrace
  deriving DecidableEq, Repr

namespace Expectation

/-- How an expectation is named in messages. -/
def text : Expectation → String
  | openingMark => "'<%='"
  | closingMark => "'%>'"
  | expression => "expression"
  | memberName => "member name"
  | parameterName => "parameter name"
  | adjacentNumber => "number literal immediately after '-'"
  | parenAfterIf => "'(' after 'if'"
  | parenAfterFn => "'(' after 'fn'"
  | comma => "','"
  | colon => "':'"
  | arrow => "'->'"
  | rightParen => "')'"
  | rightBracket => "']'"
  | rightBrace => "'\x7d'"

end Expectation

/-- How a token that does not fit is named in messages. -/
def Token.description (t : Token) : String :=
  match t.kind with
  | .ending => "end of input"
  | .text => "template text"
  | .string => "string literal"
  | _ => "'" ++ t.text ++ "'"

/-- Why a text is no template. -/
inductive ParseCause where
  | lexical (fault : LexicalFault)
  | expected (what : Expectation) (found : String)
  | duplicateParameter (name : String)
  | floatOutOfRange (text : String)
  | integerOutOfRange (text : String)
  deriving DecidableEq, Repr

namespace ParseCause

def text : ParseCause → String
  | lexical (.unrecognized c) =>
    "Unrecognized character " ++ Text.quoted (String.singleton c)
  | lexical .unterminated => "Unterminated string literal"
  | expected what found => "Expected " ++ what.text ++ " but found " ++ found
  | duplicateParameter name => "Duplicate parameter '" ++ name ++ "'"
  | floatOutOfRange text => "Float literal " ++ text ++ " out of range"
  | integerOutOfRange text => "Integer literal " ++ text ++ " out of 64-bit range"

/-- What was expected, where that is the trouble. -/
def expectation? : ParseCause → Option Expectation
  | expected what _ => some what
  | _ => none

end ParseCause

/-- How reading a template fails: the text is rejected at a place, expressions nest
too deep for the stack to go on at a place, or an integer numeral has more digits
than are ever read. -/
inductive ParseFailure where
  | rejected (cause : ParseCause) (location : Location)
  | tooDeep (location : Location)
  | numeralTooLong (digits : Nat)
  deriving DecidableEq, Repr

end Inlay
