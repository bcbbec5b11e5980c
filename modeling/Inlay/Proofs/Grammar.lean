import Inlay.Expr.Reader
import Inlay.Proofs.Lexing

/-!
# The grammar of templates

The documented grammar as a relation between tokens and what they stand for:

    block       := (text | '<%=' expression '%>')*
    expression  := function | primary suffix*
    primary     := '(' expression ')' | choice | name | string | number | list | dictionary
    suffix      := '.' name | '[' expression ']' | '(' expressions ')'
    choice      := 'if' '(' expression ',' expression ',' expression ')'
    list        := '[' expressions ']'
    dictionary  := '{' (expression ':' expression (',' expression ':' expression)*)? '}'
    function    := 'fn' '(' (name (',' name)*)? ')' '->' expression
    expressions := (expression (',' expression)*)?

One constructor of `Derives` is one way to use a rule, over exactly the tokens
that it spans; nothing here looks ahead or knows a rest. The grammar sets no
bound to nesting. `Derives between n` says that `n` frames of a stack are enough
for it, so that what a reader with a bounded stack can do is said in the same
terms; for `Template.Derivable` any number of them will do, however they are counted
(`Derives.recount`).
-/

namespace Inlay

namespace Grammar

/-! ## Numbers -/

/-- An integer of 64 bits. -/
def FitsInt64 (n : Int) : Prop := -0x8000000000000000 ≤ n ∧ n ≤ 0x7FFFFFFFFFFFFFFF

/-- A numeral with the minus that may stand before it. -/
def signed (negative : Bool) (text : String) : String := if negative then "-" ++ text else text

/-- The number that a numeral's digits spell in base ten, with its sign. -/
def signedValue (negative : Bool) (text : String) : Int :=
  if negative then -(Nat.ofDigitChars 10 text.toList 0 : Int)
  else Nat.ofDigitChars 10 text.toList 0

/-- The literals that a number token stands for, at a place and perhaps after a
minus: integers of 64 bits, and finite floating-point numbers. -/
inductive Literal (negative : Bool) (t : Token) (place : Location) : Expr → Prop
  | integer (hk : t.kind = .integer)
      (hr : FitsInt64 (signedValue negative t.text)) :
      Literal negative t place (.integer place (signedValue negative t.text))
  | float {x : Binary64} (hk : t.kind = .float)
      (hx : Numeral.readFloat? 0 (signed negative t.text).toList = some x)
      (hf : x.isFinite = true) : Literal negative t place (.float place x)

/-! ## Parameters -/

/-- Names with a comma between each two. -/
inductive Names : List String → List Token → Prop
  | one {t : Token} (hk : t.kind = .identifier) : Names [t.text] [t]
  | more {t comma : Token} {ps : List String} {ts : List Token} (hk : t.kind = .identifier)
      (hc : comma.kind = .comma) (hs : Names ps ts) : Names (t.text :: ps) (t :: comma :: ts)

/-- The parameters of a function, of which there may be none. -/
inductive Parameters : List String → List Token → Prop
  | none : Parameters [] []
  | some {ps : List String} {ts : List Token} (hs : Names ps ts) : Parameters ps ts

/-! ## Rules -/

/-- What a rule derives: a part of a template with what it stands for. The
suffixes of an expression are given with the base that they turn into it. -/
inductive Phrase where
  | expression (e : Expr)
  | primary (e : Expr)
  | suffixes (base e : Expr)
  | expressions (es : List Expr)
  | moreExpressions (es : List Expr)
  | entries (es : List (Expr × Expr))
  | moreEntries (es : List (Expr × Expr))
  | block (es : List Expr)

/-- The tokens that a phrase is derived from, where so many frames are enough. An
expression takes one of them, and a construct those that it has between its own
expression and one that stands in it. -/
inductive Derives (between : Reader.Construct → Nat) : Nat → Phrase → List Token → Prop
  | function {n : Nat} {keyword opener closer arrow : Token} {ps : List String}
      {names ts : List Token} {body : Expr} (hk : keyword.kind = .fnWord)
      (ho : opener.kind = .leftParen) (hp : Parameters ps names) (hd : ps.Nodup)
      (hc : closer.kind = .rightParen) (ha : arrow.kind = .arrow)
      (hb : Derives between (n - between .function) (.expression body) ts) :
      Derives between (n + 1) (.expression (.function keyword.location ps body))
        (keyword :: opener :: (names ++ closer :: arrow :: ts))
  | chain {n : Nat} {base e : Expr} {ts us : List Token} (hb : Derives between n (.primary base) ts)
      (hs : Derives between n (.suffixes base e) us) :
      Derives between (n + 1) (.expression e) (ts ++ us)
  | group {n : Nat} {opener closer : Token} {e : Expr} {ts : List Token}
      (ho : opener.kind = .leftParen)
      (he : Derives between (n - between .group) (.expression e) ts)
      (hc : closer.kind = .rightParen) : Derives between n (.primary e) (opener :: (ts ++ [closer]))
  | choice {n : Nat} {keyword opener comma comma' closer : Token} {c a b : Expr}
      {ts us vs : List Token} (hk : keyword.kind = .ifWord) (ho : opener.kind = .leftParen)
      (hc : Derives between (n - between .choice) (.expression c) ts) (h1 : comma.kind = .comma)
      (ha : Derives between (n - between .choice) (.expression a) us) (h2 : comma'.kind = .comma)
      (hb : Derives between (n - between .choice) (.expression b) vs)
      (hr : closer.kind = .rightParen) :
      Derives between n (.primary (.choice keyword.location c a b))
        (keyword :: opener :: (ts ++ comma :: (us ++ comma' :: (vs ++ [closer]))))
  | name {n : Nat} {t : Token} (hk : t.kind = .identifier) :
      Derives between n (.primary (.name t.location t.text)) [t]
  | string {n : Nat} {t : Token} (hk : t.kind = .string) :
      Derives between n (.primary (.string t.location t.text)) [t]
  | number {n : Nat} {t : Token} {e : Expr} (hl : Literal false t t.location e) :
      Derives between n (.primary e) [t]
  | negative {n : Nat} {minus t : Token} {e : Expr} (hk : minus.kind = .minus)
      (hat : t.location = minus.location.next) (hl : Literal true t minus.location e) :
      Derives between n (.primary e) [minus, t]
  | list {n : Nat} {opener closer : Token} {es : List Expr} {ts : List Token}
      (ho : opener.kind = .leftBracket)
      (he : Derives between (n - between .list) (.expressions es) ts)
      (hc : closer.kind = .rightBracket) :
      Derives between n (.primary (.list opener.location es)) (opener :: (ts ++ [closer]))
  | dictionary {n : Nat} {opener closer : Token} {es : List (Expr × Expr)} {ts : List Token}
      (ho : opener.kind = .leftBrace)
      (he : Derives between (n - between .dictionary) (.entries es) ts)
      (hc : closer.kind = .rightBrace) :
      Derives between n (.primary (.dictionary opener.location es)) (opener :: (ts ++ [closer]))
  | noSuffix {n : Nat} {base : Expr} : Derives between n (.suffixes base base) []
  | member {n : Nat} {dot t : Token} {base e : Expr} {ts : List Token} (hd : dot.kind = .dot)
      (hk : t.kind = .identifier)
      (hs : Derives between n (.suffixes (.member dot.location base t.text) e) ts) :
      Derives between n (.suffixes base e) (dot :: t :: ts)
  | index {n : Nat} {opener closer : Token} {base key e : Expr} {ts us : List Token}
      (ho : opener.kind = .leftBracket)
      (hi : Derives between (n - between .index) (.expression key) ts)
      (hc : closer.kind = .rightBracket)
      (hs : Derives between n (.suffixes (.index opener.location base key) e) us) :
      Derives between n (.suffixes base e) (opener :: (ts ++ closer :: us))
  | call {n : Nat} {opener closer : Token} {base e : Expr} {es : List Expr}
      {ts us : List Token} (ho : opener.kind = .leftParen)
      (ha : Derives between (n - between .call) (.expressions es) ts)
      (hc : closer.kind = .rightParen)
      (hs : Derives between n (.suffixes (.call opener.location base es) e) us) :
      Derives between n (.suffixes base e) (opener :: (ts ++ closer :: us))
  | noExpressions {n : Nat} : Derives between n (.expressions []) []
  | someExpressions {n : Nat} {e : Expr} {es : List Expr} {ts us : List Token}
      (he : Derives between n (.expression e) ts)
      (hs : Derives between n (.moreExpressions es) us) :
      Derives between n (.expressions (e :: es)) (ts ++ us)
  | noMoreExpressions {n : Nat} : Derives between n (.moreExpressions []) []
  | moreExpressions {n : Nat} {comma : Token} {e : Expr} {es : List Expr} {ts us : List Token}
      (hc : comma.kind = .comma) (he : Derives between n (.expression e) ts)
      (hs : Derives between n (.moreExpressions es) us) :
      Derives between n (.moreExpressions (e :: es)) (comma :: (ts ++ us))
  | noEntries {n : Nat} : Derives between n (.entries []) []
  | someEntries {n : Nat} {colon : Token} {k v : Expr} {es : List (Expr × Expr)}
      {ts us vs : List Token} (hk : Derives between n (.expression k) ts) (hc : colon.kind = .colon)
      (hv : Derives between n (.expression v) us) (hs : Derives between n (.moreEntries es) vs) :
      Derives between n (.entries ((k, v) :: es)) (ts ++ colon :: (us ++ vs))
  | noMoreEntries {n : Nat} : Derives between n (.moreEntries []) []
  | moreEntries {n : Nat} {comma colon : Token} {k v : Expr} {es : List (Expr × Expr)}
      {ts us vs : List Token} (h1 : comma.kind = .comma) (hk : Derives between n (.expression k) ts)
      (hc : colon.kind = .colon) (hv : Derives between n (.expression v) us)
      (hs : Derives between n (.moreEntries es) vs) :
      Derives between n (.moreEntries ((k, v) :: es)) (comma :: (ts ++ colon :: (us ++ vs)))
  | noChildren {n : Nat} : Derives between n (.block []) []
  | textChild {n : Nat} {t : Token} {es : List Expr} {ts : List Token} (hk : t.kind = .text)
      (hs : Derives between n (.block es) ts) :
      Derives between n (.block (.string t.location t.text :: es)) (t :: ts)
  | expressionChild {n : Nat} {opener closer : Token} {e : Expr} {es : List Expr}
      {ts us : List Token} (ho : opener.kind = .opening) (he : Derives between n (.expression e) ts)
      (hc : closer.kind = .closing) (hs : Derives between n (.block es) us) :
      Derives between n (.block (e :: es)) (opener :: (ts ++ closer :: us))

/-- A derivation in which expressions stand in each other so many deep at most. -/
abbrev Nests := Derives fun _ => 0

end Grammar

/-- The grammar derives a template from tokens, the last of which ends the text. -/
def Template.Derivable (ts : List Token) (t : Template) : Prop :=
  ∃ (n : Nat) (body : List Token) (last : Token), ts = body ++ [last] ∧ last.kind = .ending ∧
    Grammar.Nests n (.block t.children) body

namespace Grammar

variable {between : Reader.Construct → Nat}

/-! ## How an expression starts -/

/-- The kinds of tokens that an expression may start with. -/
def Starts : TokenKind → Prop
  | .fnWord | .leftParen | .ifWord | .identifier | .string | .integer | .float | .minus
  | .leftBracket | .leftBrace => True
  | _ => False

/-- The phrases that are expressions, with or without suffixes. -/
def Phrase.IsExpression : Phrase → Prop
  | .expression _ | .primary _ => True
  | _ => False

theorem Literal.kind_eq {negative : Bool} {t : Token} {place : Location} {e : Expr}
    (h : Literal negative t place e) : t.kind = .integer ∨ t.kind = .float := by
  cases h with
  | integer hk => exact .inl hk
  | float hk => exact .inr hk

/-- The tokens of an expression start as an expression may. -/
theorem Derives.starts {n : Nat} {p : Phrase} {ts : List Token} (h : Derives between n p ts)
    (hp : p.IsExpression) : ∃ t us, ts = t :: us ∧ Starts t.kind := by
  induction h with
  | function hk => exact ⟨_, _, rfl, by simp [hk, Starts]⟩
  | chain hb hs ihb =>
      obtain ⟨t, us, rfl, ht⟩ := ihb trivial
      exact ⟨t, _, rfl, ht⟩
  | group ho => exact ⟨_, _, rfl, by simp [ho, Starts]⟩
  | choice hk => exact ⟨_, _, rfl, by simp [hk, Starts]⟩
  | name hk => exact ⟨_, _, rfl, by simp [hk, Starts]⟩
  | string hk => exact ⟨_, _, rfl, by simp [hk, Starts]⟩
  | number hl =>
      refine ⟨_, _, rfl, ?_⟩
      rcases hl.kind_eq with hk | hk <;> simp [hk, Starts]
  | negative hk => exact ⟨_, _, rfl, by simp [hk, Starts]⟩
  | list ho => exact ⟨_, _, rfl, by simp [ho, Starts]⟩
  | dictionary ho => exact ⟨_, _, rfl, by simp [ho, Starts]⟩
  | _ => exact hp.elim

/-! ## Suffixes after suffixes -/

theorem Derives.then_suffixes {n : Nat} {b e f : Expr} {us vs : List Token}
    (h : Derives between n (.suffixes b e) us) (h' : Derives between n (.suffixes e f) vs) :
    Derives between n (.suffixes b f) (us ++ vs) := by
  generalize hp : Phrase.suffixes b e = p at h
  induction h generalizing b e with
  | noSuffix =>
      cases hp
      exact h'
  | member hd hk hs ih =>
      cases hp
      exact .member hd hk (ih h' rfl)
  | index ho hi hc hs _ ih =>
      cases hp
      simpa using Derives.index ho hi hc (ih h' rfl)
  | call ho ha hc hs _ ih =>
      cases hp
      simpa using Derives.call ho ha hc (ih h' rfl)
  | _ => cases hp

/-! ## Frames -/

/-- What is derived with some frames is derived, from some number on, with any, and
also where constructs take other numbers of them. -/
theorem Derives.recount {n : Nat} {p : Phrase} {ts : List Token} (h : Derives between n p ts)
    (between' : Reader.Construct → Nat) : ∃ enough, ∀ m, enough ≤ m → Derives between' m p ts := by
  induction h with
  | function hk ho hp hd hc ha hb ih =>
      obtain ⟨n, ih⟩ := ih
      refine ⟨n + between' .function + 1, fun m hm => ?_⟩
      obtain ⟨m, rfl⟩ := Nat.exists_eq_add_of_le' (Nat.le_of_add_left_le hm)
      exact .function hk ho hp hd hc ha (ih _ (by omega))
  | chain hb hs ihb ihs =>
      obtain ⟨n, ihb⟩ := ihb
      obtain ⟨n', ihs⟩ := ihs
      refine ⟨max n n' + 1, fun m hm => ?_⟩
      obtain ⟨m, rfl⟩ := Nat.exists_eq_add_of_le' (Nat.le_of_add_left_le hm)
      exact .chain (ihb _ (by omega)) (ihs _ (by omega))
  | group ho he hc ih =>
      obtain ⟨n, ih⟩ := ih
      exact ⟨n + between' .group, fun m hm => .group ho (ih _ (by omega)) hc⟩
  | choice hk ho hc h1 ha h2 hb hr ihc iha ihb =>
      obtain ⟨n, ihc⟩ := ihc
      obtain ⟨n', iha⟩ := iha
      obtain ⟨n'', ihb⟩ := ihb
      exact ⟨max n (max n' n'') + between' .choice, fun m hm => .choice hk ho (ihc _ (by omega)) h1
        (iha _ (by omega)) h2 (ihb _ (by omega)) hr⟩
  | name hk => exact ⟨0, fun _ _ => .name hk⟩
  | string hk => exact ⟨0, fun _ _ => .string hk⟩
  | number hl => exact ⟨0, fun _ _ => .number hl⟩
  | negative hk hat hl => exact ⟨0, fun _ _ => .negative hk hat hl⟩
  | list ho he hc ih =>
      obtain ⟨n, ih⟩ := ih
      exact ⟨n + between' .list, fun m hm => .list ho (ih _ (by omega)) hc⟩
  | dictionary ho he hc ih =>
      obtain ⟨n, ih⟩ := ih
      exact ⟨n + between' .dictionary, fun m hm => .dictionary ho (ih _ (by omega)) hc⟩
  | noSuffix => exact ⟨0, fun _ _ => .noSuffix⟩
  | member hd hk hs ih =>
      obtain ⟨n, ih⟩ := ih
      exact ⟨n, fun m hm => .member hd hk (ih m hm)⟩
  | index ho hi hc hs ihi ihs =>
      obtain ⟨n, ihi⟩ := ihi
      obtain ⟨n', ihs⟩ := ihs
      exact ⟨max (n + between' .index) n', fun m hm =>
        .index ho (ihi _ (by omega)) hc (ihs _ (by omega))⟩
  | call ho ha hc hs iha ihs =>
      obtain ⟨n, iha⟩ := iha
      obtain ⟨n', ihs⟩ := ihs
      exact ⟨max (n + between' .call) n', fun m hm =>
        .call ho (iha _ (by omega)) hc (ihs _ (by omega))⟩
  | noExpressions => exact ⟨0, fun _ _ => .noExpressions⟩
  | someExpressions he hs ihe ihs =>
      obtain ⟨n, ihe⟩ := ihe
      obtain ⟨n', ihs⟩ := ihs
      exact ⟨max n n', fun m hm => .someExpressions (ihe _ (by omega)) (ihs _ (by omega))⟩
  | noMoreExpressions => exact ⟨0, fun _ _ => .noMoreExpressions⟩
  | moreExpressions hc he hs ihe ihs =>
      obtain ⟨n, ihe⟩ := ihe
      obtain ⟨n', ihs⟩ := ihs
      exact ⟨max n n', fun m hm => .moreExpressions hc (ihe _ (by omega)) (ihs _ (by omega))⟩
  | noEntries => exact ⟨0, fun _ _ => .noEntries⟩
  | someEntries hk hc hv hs ihk ihv ihs =>
      obtain ⟨n, ihk⟩ := ihk
      obtain ⟨n', ihv⟩ := ihv
      obtain ⟨n'', ihs⟩ := ihs
      exact ⟨max n (max n' n''), fun m hm =>
        .someEntries (ihk _ (by omega)) hc (ihv _ (by omega)) (ihs _ (by omega))⟩
  | noMoreEntries => exact ⟨0, fun _ _ => .noMoreEntries⟩
  | moreEntries h1 hk hc hv hs ihk ihv ihs =>
      obtain ⟨n, ihk⟩ := ihk
      obtain ⟨n', ihv⟩ := ihv
      obtain ⟨n'', ihs⟩ := ihs
      exact ⟨max n (max n' n''), fun m hm =>
        .moreEntries h1 (ihk _ (by omega)) hc (ihv _ (by omega)) (ihs _ (by omega))⟩
  | noChildren => exact ⟨0, fun _ _ => .noChildren⟩
  | textChild hk hs ih =>
      obtain ⟨n, ih⟩ := ih
      exact ⟨n, fun m hm => .textChild hk (ih m hm)⟩
  | expressionChild ho he hc hs ihe ihs =>
      obtain ⟨n, ihe⟩ := ihe
      obtain ⟨n', ihs⟩ := ihs
      exact ⟨max n n', fun m hm => .expressionChild ho (ihe _ (by omega)) hc (ihs _ (by omega))⟩

theorem Derives.nests {n : Nat} {p : Phrase} {ts : List Token} (h : Derives between n p ts) :
    ∃ m, Nests m p ts := by
  obtain ⟨m, hm⟩ := h.recount fun _ => 0
  exact ⟨m, hm m (Nat.le_refl m)⟩

end Grammar

end Inlay
