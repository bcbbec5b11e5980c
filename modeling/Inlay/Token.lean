import Inlay.Location

/-!
# Tokens of a template

A template is text in which expressions stand between `<%=` and `%>`. Its
tokens are the stretches of plain text, the two marks, and inside them the
words, numbers, strings and signs of the expression language.
-/

namespace Inlay

/-- What a token is. -/
inductive TokenKind where
  | text
  | opening
  | closing
  | identifier
  | ifWord
  | fnWord
  | integer
  | float
  | string
  | leftParen
  | rightParen
  | leftBracket
  | rightBracket
  | leftBrace
  | rightBrace
  | dot
  | comma
  | minus
  | colon
  | arrow
  | ending
  deriving DecidableEq, Repr, Inhabited

/-- A token: its kind, its text and the place of its first character. The text
of a string token is the string that it denotes. -/
structure Token where
  kind : TokenKind
  text : String
  location : Location
  deriving DecidableEq, Repr, Inhabited

/-- What a reader of template text is in the middle of: plain text or an
expression. -/
inductive Mode where
  | plain
  | expression
  deriving DecidableEq, Repr, Inhabited

/-- Why a text has no further token. -/
inductive LexicalFault where
  | unrecognized (c : Char)
  | unterminated
  deriving DecidableEq, Repr

/-- The tokens of a text, the fault that ended them early if there was one
(with its place), and the mode at the end. -/
structure Lexed where
  tokens : List Token
  fault : Option (LexicalFault × Location)
  mode : Mode
  deriving DecidableEq, Repr

end Inlay
