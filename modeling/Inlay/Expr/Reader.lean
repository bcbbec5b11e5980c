import Inlay.Expr
import Inlay.Expr.Fault
import Inlay.Number.Reading
import Inlay.Token.Lexer

/-!
# From tokens to templates

Recursive descent with one token of lookahead and no way back:

    template   := (text | '<%=' expression '%>')*
    expression := function | primary suffix*
    primary    := '(' expression ')' | choice | name | string | number | list | dictionary
    suffix     := '.' name | '[' expression ']' | '(' expressions ')'
    choice     := 'if' '(' expression ',' expression ',' expression ')'
    list       := '[' expressions ']'
    dictionary := '{' (expression ':' expression (',' expression ':' expression)*)? '}'
    function   := 'fn' '(' (name (',' name)*)? ')' '->' expression
    expressions := (expression (',' expression)*)?

The rules are put together from four steps (`Steps`): to look at the current
token, to take it, to reject it, and to make something of tokens that were
taken. What a step is, is left to the monad that they are run in.

Every rule returns the tokens that are left, with the fact that some were
taken, so the loops end. Rules that hold expressions take the reader of one
expression as an argument; what `expression` recurses on is the stack. An
expression takes a frame of it, and each construct some more for the expressions
that stand in it.

The tokens end with the one of kind `ending`, which is never passed, unless a
lexical fault cut them short; moving on to where the fault stands raises it.
-/

namespace Inlay

namespace Reader

/-- The constructs that expressions stand in. -/
inductive Construct where
  | group
  | choice
  | list
  | dictionary
  | function
  | index
  | call
  deriving DecidableEq, Repr

/-- The stack that a template is read on: the frames that are free where an
expression of the template begins, and those that each construct has between its
own expression and one that stands in it. -/
structure Stack where
  room : Nat
  between : Construct → Nat
  /-- The reader itself is running on it. -/
  positive : 0 < room := by decide

/-- The frames between expressions, with a frame for each rule on the way. -/
def framesBetween : Construct → Nat
  | .index => 0
  | .group | .call | .function => 1
  | .choice | .dictionary => 2
  | .list => 3

/-- A stack of a thousand frames, less those that the program has in use. -/
def Stack.usual : Stack := { room := 992, between := framesBetween }

/-- Why reading stops. Running into the end of tokens that were cut short is
turned into the fault that cut them. -/
inductive Stop where
  | failure (f : ParseFailure)
  | cutShort
  deriving DecidableEq, Repr

/-- A value read from `ts`, and the tokens left after it. -/
structure Parsed (α : Type) (ts : List Token) where
  value : α
  rest : List Token
  shorter : rest.length < ts.length

namespace Parsed

variable {α β : Type} {ts us : List Token}

/-- What was read from a shorter text was read from the longer one too. -/
def widen (h : us.length ≤ ts.length) (p : Parsed α us) : Parsed α ts :=
  ⟨p.value, p.rest, Nat.lt_of_lt_of_le p.shorter h⟩

def map (f : α → β) (p : Parsed α ts) : Parsed β ts := ⟨f p.value, p.rest, p.shorter⟩

/-- One thing read after another. -/
def andThen (p : Parsed α ts) (q : Parsed β p.rest) : Parsed β ts :=
  q.widen (Nat.le_of_lt p.shorter)

end Parsed

/-! ## Steps -/

def kind : List Token → TokenKind
  | [] => .ending
  | t :: _ => t.kind

def place : List Token → Location
  | [] => .start
  | t :: _ => t.location

/-- What a reader does at the current token, in the middle of text or of an
expression, and with the tokens that it has taken. -/
class Steps (m : Type → Type) where
  look : Mode → List Token → m TokenKind
  take : Mode → (ts : List Token) → m (Parsed Token ts)
  reject {α : Type} : Mode → Expectation → List Token → m α
  made {α : Type} : Except Stop α → m α

export Steps (look take reject made)

/-- The steps with nothing but what they come to. -/
instance : Steps (Except Stop) where
  look _ ts := .ok (kind ts)
  take _ ts :=
    match ts with
    | [] => .error .cutShort
    | [_] => .error .cutShort
    | t :: u :: rest => .ok ⟨t, u :: rest, by simp⟩
  reject _ what ts :=
    match ts with
    | [] => .error .cutShort
    | t :: _ => .error (.failure (.rejected (.expected what t.description) t.location))
  made x := x

/-- A rule whose steps are run in a monad. -/
abbrev ReaderIn (m : Type → Type) (α : Type) := (ts : List Token) → m (Parsed α ts)

/-- The result of reading something from `ts`. -/
abbrev Reads (α : Type) (ts : List Token) := Except Stop (Parsed α ts)

/-- A reader of one expression. -/
abbrev ExprReader := ReaderIn (Except Stop) Expr

/-! ## Numbers -/

def minInteger : Int := -9223372036854775808

/-- The greatest integer of the language. -/
def maxInteger : Int := 9223372036854775807

/-- The literal of a number token, which a minus may precede. -/
def number (negative : Bool) (t : Token) (l : Location) : Except Stop Expr :=
  let text := if negative then "-" ++ t.text else t.text
  match t.kind with
  | .float =>
    match Numeral.readFloat? 0 text.toList with
    | some value =>
      if value.isFinite then .ok (.float l value)
      else .error (.failure (.rejected (.floatOutOfRange text) l))
    | none => .error (.failure (.rejected (.floatOutOfRange text) l))
  | _ =>
    match Numeral.readInteger text.toList with
    | .ok n =>
      if minInteger ≤ n ∧ n ≤ maxInteger then .ok (.integer l n)
      else .error (.failure (.rejected (.integerOutOfRange text) l))
    | .error (.tooLong digits) => .error (.failure (.numeralTooLong digits))
    | .error .malformed => .error (.failure (.rejected (.integerOutOfRange text) l))

section

variable {m : Type → Type} [Monad m] [Steps m]

def expect (mode : Mode) (wanted : TokenKind) (what : Expectation) : ReaderIn m Token :=
  fun ts => do
    let k ← look mode ts
    if k = wanted then take mode ts else reject mode what ts

/-- Reads a number after a minus, which must touch it. -/
def negativeNumber : ReaderIn m Expr := fun ts => do
  let minus ← take .expression ts
  let k ← look .expression minus.rest
  if (k = .integer ∨ k = .float) ∧ place minus.rest = minus.value.location.next then
    let t ← take .expression minus.rest
    let e ← made (number true t.value minus.value.location)
    return minus.andThen (t.map fun _ => e)
  else reject .expression .adjacentNumber minus.rest

/-! ## Lists with commas -/

section

variable {α σ : Type} (item : σ → ReaderIn m α) (next : σ → α → σ)

/-- Reads further items, each after a comma. What an item has to know of those
before it is `s`. -/
def moreItems (s : σ) (ts : List Token) :
    m { r : List α × List Token // r.2.length ≤ ts.length } := do
  let k ← look .expression ts
  if k = .comma then
    let comma ← take .expression ts
    let a ← item s comma.rest
    have h1 := comma.shorter
    have h2 := a.shorter
    let more ← moreItems (next s a.value) a.rest
    return ⟨(a.value :: more.1.1, more.1.2), Nat.le_trans more.2 (by omega)⟩
  else return ⟨([], ts), Nat.le_refl _⟩
termination_by ts.length

/-- Reads items separated by commas, up to a closing token, which is taken too. -/
def items (s : σ) (closer : TokenKind) (what : Expectation) : ReaderIn m (List α) := fun ts => do
  let k ← look .expression ts
  if k = closer then
    let close ← take .expression ts
    return close.map fun _ => []
  else
    let first ← item s ts
    let more ← moreItems item next (next s first.value) first.rest
    let close ← expect .expression closer what more.1.2
    return ⟨first.value :: more.1.1, close.rest,
      Nat.lt_trans (Nat.lt_of_lt_of_le close.shorter more.2) first.shorter⟩

end

section

variable (one : ReaderIn m Expr)

/-- Reads expressions separated by commas, and the closing token. -/
def expressions : TokenKind → Expectation → ReaderIn m (List Expr) :=
  items (fun _ : Unit => one) (fun _ _ => ()) ()

/-- Reads a key, a colon and a value. -/
def entry : ReaderIn m (Expr × Expr) := fun ts => do
  let key ← one ts
  let colon ← expect .expression .colon .colon key.rest
  let value ← one colon.rest
  return key.andThen (colon.andThen (value.map fun v => (key.value, v)))

/-- Reads entries separated by commas, and the closing brace. -/
def entries : ReaderIn m (List (Expr × Expr)) :=
  items (fun _ : Unit => entry one) (fun _ _ => ()) () .rightBrace .rightBrace

end

/-- Reads the name of a parameter that differs from those before it. -/
def parameter (before : List String) : ReaderIn m String := fun ts => do
  let name ← expect .expression .identifier .parameterName ts
  if name.value.text ∈ before then
    made (.error (.failure (.rejected (.duplicateParameter name.value.text)
      name.value.location)))
  else return name.map Token.text

/-- Reads parameters separated by commas, and the closing parenthesis. -/
def parameters : ReaderIn m (List String) :=
  items parameter (fun before p => before ++ [p]) [] .rightParen .rightParen

/-! ## Expressions -/

/-- Reads a function: keyword, parameters, arrow and body. -/
def function (one : ReaderIn m Expr) : ReaderIn m Expr := fun ts => do
  let keyword ← take .expression ts
  let paren ← expect .expression .leftParen .parenAfterFn keyword.rest
  let names ← parameters paren.rest
  let arrow ← expect .expression .arrow .arrow names.rest
  let body ← one arrow.rest
  return keyword.andThen (paren.andThen (names.andThen (arrow.andThen
    (body.map fun b => .function keyword.value.location names.value b))))

/-- Reads a choice between two expressions. -/
def choice (one : ReaderIn m Expr) : ReaderIn m Expr := fun ts => do
  let keyword ← take .expression ts
  let paren ← expect .expression .leftParen .parenAfterIf keyword.rest
  let condition ← one paren.rest
  let comma ← expect .expression .comma .comma condition.rest
  let yes ← one comma.rest
  let comma' ← expect .expression .comma .comma yes.rest
  let no ← one comma'.rest
  let close ← expect .expression .rightParen .rightParen no.rest
  return keyword.andThen (paren.andThen (condition.andThen (comma.andThen (yes.andThen
    (comma'.andThen (no.andThen (close.map fun _ =>
      .choice keyword.value.location condition.value yes.value no.value)))))))

section

variable (one : Construct → ReaderIn m Expr)

/-- Reads an expression without suffixes. -/
def primary : ReaderIn m Expr := fun ts => do
  match ← look .expression ts with
  | .leftParen =>
    let paren ← take .expression ts
    let inner ← one .group paren.rest
    let close ← expect .expression .rightParen .rightParen inner.rest
    return paren.andThen (inner.andThen (close.map fun _ => inner.value))
  | .ifWord => choice (one .choice) ts
  | .identifier =>
    let t ← take .expression ts
    return t.map fun t => .name t.location t.text
  | .string =>
    let t ← take .expression ts
    return t.map fun t => .string t.location t.text
  | .integer | .float =>
    let t ← take .expression ts
    let e ← made (number false t.value t.value.location)
    return t.map fun _ => e
  | .minus => negativeNumber ts
  | .leftBracket =>
    let bracket ← take .expression ts
    let elements ← expressions (one .list) .rightBracket .rightBracket bracket.rest
    return bracket.andThen (elements.map fun es => .list bracket.value.location es)
  | .leftBrace =>
    let brace ← take .expression ts
    let es ← entries (one .dictionary) brace.rest
    return brace.andThen (es.map fun es => .dictionary brace.value.location es)
  | _ => reject .expression .expression ts

/-- Reads one suffix of `base`, if there is one. -/
def suffix? (base : Expr) (ts : List Token) : m (Option (Parsed Expr ts)) := do
  match ← look .expression ts with
  | .dot =>
    let dot ← take .expression ts
    let name ← expect .expression .identifier .memberName dot.rest
    return some (dot.andThen (name.map fun t => .member dot.value.location base t.text))
  | .leftBracket =>
    let bracket ← take .expression ts
    let key ← one .index bracket.rest
    let close ← expect .expression .rightBracket .rightBracket key.rest
    return some (bracket.andThen (key.andThen
      (close.map fun _ => .index bracket.value.location base key.value)))
  | .leftParen =>
    let paren ← take .expression ts
    let arguments ← expressions (one .call) .rightParen .rightParen paren.rest
    return some (paren.andThen
      (arguments.map fun es => .call paren.value.location base es))
  | _ => return none

/-- Reads the suffixes of `base`, from left to right. -/
def suffixes (base : Expr) (ts : List Token) :
    m { r : Expr × List Token // r.2.length ≤ ts.length } := do
  match ← suffix? one base ts with
  | none => return ⟨(base, ts), Nat.le_refl _⟩
  | some p =>
    have h1 := p.shorter
    let r ← suffixes p.value p.rest
    return ⟨r.1, Nat.le_trans r.2 (by omega)⟩
termination_by ts.length

end

/-- Gives up at the current token, for want of a frame. -/
def giveUp {α : Type} : List Token → Except Stop α
  | [] => .error .cutShort
  | t :: _ => .error (.failure (.tooDeep t.location))

/-- Reads an expression on a stack with so many free frames, of which `above` are
taken before the one of the expression. -/
def expression (between : Construct → Nat) : (room above : Nat) → ReaderIn m Expr
  | 0, _, ts => made (giveUp ts)
  | room + 1, above + 1, ts => expression between room above ts
  | room + 1, 0, ts => do
    let k ← look .expression ts
    if k = .fnWord then function (expression between room (between .function)) ts
    else
      let base ← primary (fun c => expression between room (between c)) ts
      let r ← suffixes (fun c => expression between room (between c)) base.value base.rest
      return ⟨r.1.1, r.1.2, Nat.lt_of_le_of_lt r.2 base.shorter⟩

/-! ## Templates -/

/-- Reads the children of a template up to the end. -/
def children (one : ReaderIn m Expr) (ts : List Token) : m (List Expr) := do
  match ← look .plain ts with
  | .ending => if ts.isEmpty then made (.error .cutShort) else return []
  | .text =>
    let t ← take .plain ts
    have _ := t.shorter
    let es ← children one t.rest
    return .string t.value.location t.value.text :: es
  | _ =>
    let opening ← expect .plain .opening .openingMark ts
    let e ← one opening.rest
    let closing ← expect .expression .closing .closingMark e.rest
    have _ := opening.shorter
    have _ := e.shorter
    have _ := closing.shorter
    let es ← children one closing.rest
    return e.value :: es
termination_by ts.length

def Stack.expression (stack : Stack) : ReaderIn m Expr :=
  Reader.expression stack.between stack.room 0

end

def Stack.children (stack : Stack) (ts : List Token) : Except Stop (List Expr) :=
  Reader.children stack.expression ts

/-- The failure that a stop means for a text whose tokens ended with `fault`. Tokens
that end without one are never cut short; what would be said of them names no place. -/
def Stop.toFailure (fault : Option (LexicalFault × Location)) : Stop → ParseFailure
  | .failure f => f
  | .cutShort =>
    match fault with
    | some (cause, place) => .rejected (.lexical cause) place
    | none => .numeralTooLong 0

end Reader

/-- Reads a template. -/
def Template.parse (stack : Reader.Stack) (text : String) : Except ParseFailure Template :=
  let lexed := tokenize text
  match stack.children lexed.tokens with
  | .ok es => .ok ⟨es⟩
  | .error stop => .error (stop.toFailure lexed.fault)

end Inlay
