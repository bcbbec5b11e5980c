import Inlay.Token

/-!
# From text to tokens

Reading alternates between two modes. In plain mode everything up to the next
`<%=` is one token of text. In expression mode blanks are passed over and the
longest word, number, string or sign is taken, until `%>` leads back.

A lexeme is given by its characters after the first, so it is never empty and
reading always moves on; the text that follows it is what is left after
dropping as many characters.
-/

namespace Inlay

namespace Lexer

def openingMark : List Char := ['<', '%', '=']

def closingMark : List Char := ['%', '>']

def isWordStart (c : Char) : Bool :=
  ('a' ≤ c && c ≤ 'z') || ('A' ≤ c && c ≤ 'Z') || c == '_' || c == '$'

def isDigit (c : Char) : Bool := '0' ≤ c && c ≤ '9'

/-- A character that a word may hold. -/
def isWordPart (c : Char) : Bool := isWordStart c || isDigit c

/-- A character that is passed over between the tokens of an expression. -/
def isGap (c : Char) : Bool := c == ' ' || c == '\t' || c == '\r' || c == '\n'

def plainText : List Char → List Char
  | [] => []
  | c :: rest => if openingMark.isPrefixOf (c :: rest) then [] else c :: plainText rest

def wordKind (word : List Char) : TokenKind :=
  if word = ['i', 'f'] then .ifWord
  else if word = ['f', 'n'] then .fnWord
  else .identifier

/-- The exponent that stands at the head of a text: a mark, perhaps a sign, and
at least one digit. It is empty if there is none. -/
def exponent : List Char → List Char
  | mark :: rest =>
    if mark == 'e' || mark == 'E' then
      match rest with
      | sign :: more =>
        if sign == '+' || sign == '-' then
          let digits := more.takeWhile isDigit
          if digits.isEmpty then [] else mark :: sign :: digits
        else
          let digits := rest.takeWhile isDigit
          if digits.isEmpty then [] else mark :: digits
      | [] => []
    else []
  | [] => []

/-- A number that starts with a digit already taken: the kind, and what of
`rest` belongs to it. -/
def number (rest : List Char) : TokenKind × List Char :=
  let whole := rest.takeWhile isDigit
  let afterWhole := rest.drop whole.length
  let fraction : List Char :=
    match afterWhole with
    | '.' :: more => '.' :: more.takeWhile isDigit
    | _ => []
  let power := exponent (afterWhole.drop fraction.length)
  let kind := if fraction.isEmpty && power.isEmpty then TokenKind.integer else .float
  (kind, whole ++ fraction ++ power)

/-- What of the text after an opening quote belongs to the string, its closing
quote included; none if there is no closing quote. -/
def quotedTail : List Char → Option (List Char)
  | [] => none
  | '\'' :: '\'' :: rest => (quotedTail rest).map ('\'' :: '\'' :: ·)
  | '\'' :: _ => some ['\'']
  | c :: rest => (quotedTail rest).map (c :: ·)

/-- The string that the source after an opening quote denotes: a doubled quote
stands for one, and the last quote closes. -/
def unquoteTail : List Char → List Char
  | '\'' :: '\'' :: rest => '\'' :: unquoteTail rest
  | ['\''] => []
  | c :: rest => c :: unquoteTail rest
  | [] => []

def signKind? : Char → Option TokenKind
  | '(' => some .leftParen
  | ')' => some .rightParen
  | '[' => some .leftBracket
  | ']' => some .rightBracket
  | '\x7b' => some .leftBrace
  | '\x7d' => some .rightBrace
  | '.' => some .dot
  | ',' => some .comma
  | ':' => some .colon
  | _ => none

/-- The lexeme at the head of `c :: rest` in expression mode, where `c` is no
gap: its kind and its characters after the first. -/
def lexeme (c : Char) (rest : List Char) : Except LexicalFault (TokenKind × List Char) :=
  if closingMark.isPrefixOf (c :: rest) then .ok (.closing, ['>'])
  else if isWordStart c then
    let more := rest.takeWhile isWordPart
    .ok (wordKind (c :: more), more)
  else if isDigit c then .ok (number rest)
  else if c = '\'' then
    match quotedTail rest with
    | some tail => .ok (.string, tail)
    | none => .error .unterminated
  else if c = '-' then
    if rest.head? = some '>' then .ok (.arrow, ['>']) else .ok (.minus, [])
  else
    match signKind? c with
    | some kind => .ok (kind, [])
    | none => .error (.unrecognized c)

/-- The text of a token of a kind whose source is `source`. -/
def tokenText (kind : TokenKind) (source : List Char) : String :=
  match kind with
  | .string => String.ofList (unquoteTail (source.drop 1))
  | _ => String.ofList source

def modeAfter (kind : TokenKind) : Mode :=
  match kind with
  | .closing => .plain
  | _ => .expression

/-- A result with one more token in front. -/
def Lexed.cons (t : Token) (r : Lexed) : Lexed := { r with tokens := t :: r.tokens }

/-- Reads the tokens of `cs`, which stands at `at`, in a mode. -/
def tokensFrom (mode : Mode) (place : Location) (cs : List Char) : Lexed :=
  match cs with
  | [] => ⟨[⟨.ending, "", place⟩], none, mode⟩
  | c :: rest =>
    match mode with
    | .plain =>
      let plain := plainText (c :: rest)
      if plain.isEmpty then
        let after := place.advance openingMark
        Lexed.cons ⟨.opening, String.ofList openingMark, place⟩
          (tokensFrom .expression after (rest.drop 2))
      else
        Lexed.cons ⟨.text, String.ofList plain, place⟩
          (tokensFrom .plain (place.advance plain) (rest.drop (plain.length - 1)))
    | .expression =>
      if isGap c then tokensFrom .expression (place.after c) rest
      else
        match lexeme c rest with
        | .error fault => ⟨[], some (fault, place), .expression⟩
        | .ok (kind, more) =>
          let source := c :: more
          Lexed.cons ⟨kind, tokenText kind source, place⟩
            (tokensFrom (modeAfter kind) (place.advance source) (rest.drop more.length))
termination_by cs.length
decreasing_by all_goals simp only [List.length_cons, List.length_drop]; omega

end Lexer

/-- The tokens of a template text. -/
def tokenize (text : String) : Lexed := Lexer.tokensFrom .plain .start text.toList

end Inlay
