import Inlay.Proofs.Grammar
import Inlay.Proofs.Trees

/-!
# The token that a node comes from

Each node of a tree takes its place from one of the tokens that spell it: the
first of them, or for a suffix the one behind the tokens of its base
(`Anchored`). For a whole tree this goes through its derivation. Suffixes are
derived before it is known what they are put to, so there the tokens of the base
are given; they may be put in front because suffixes can be added to suffixes
(`Derives.then_suffixes`).
-/

namespace Inlay

namespace Grammar

def Spells (ts : List Token) (e : Expr) : Prop := ∃ n, Nests n (.expression e) ts

/-- The tokens spell a node, which takes its place from the one in the middle. -/
inductive Anchored : List Token → Token → List Token → Expr → Prop
  | text {t : Token} (hk : t.kind = .text) : Anchored [] t [] (.string t.location t.text)
  | string {t : Token} (hk : t.kind = .string) : Anchored [] t [] (.string t.location t.text)
  | name {t : Token} (hk : t.kind = .identifier) : Anchored [] t [] (.name t.location t.text)
  | number {t : Token} {e : Expr} (hl : Literal false t t.location e) : Anchored [] t [] e
  | negative {minus t : Token} {e : Expr} (hk : minus.kind = .minus)
      (hat : t.location = minus.location.next) (hl : Literal true t minus.location e) :
      Anchored [] minus [t] e
  | member {us : List Token} {dot t : Token} {b : Expr} (hb : Spells us b)
      (hd : dot.kind = .dot) (hk : t.kind = .identifier) :
      Anchored us dot [t] (.member dot.location b t.text)
  | index {us ts : List Token} {opener closer : Token} {b k : Expr} (hb : Spells us b)
      (ho : opener.kind = .leftBracket) (hi : Spells ts k) (hc : closer.kind = .rightBracket) :
      Anchored us opener (ts ++ [closer]) (.index opener.location b k)
  | call {n : Nat} {us ts : List Token} {opener closer : Token} {f : Expr} {es : List Expr}
      (hf : Spells us f) (ho : opener.kind = .leftParen) (ha : Nests n (.expressions es) ts)
      (hc : closer.kind = .rightParen) :
      Anchored us opener (ts ++ [closer]) (.call opener.location f es)
  | choice {ts : List Token} {keyword : Token} {c a b : Expr} (hk : keyword.kind = .ifWord)
      (hs : Spells (keyword :: ts) (.choice keyword.location c a b)) :
      Anchored [] keyword ts (.choice keyword.location c a b)
  | list {ts : List Token} {opener : Token} {es : List Expr} (ho : opener.kind = .leftBracket)
      (hs : Spells (opener :: ts) (.list opener.location es)) :
      Anchored [] opener ts (.list opener.location es)
  | dictionary {ts : List Token} {opener : Token} {es : List (Expr × Expr)}
      (ho : opener.kind = .leftBrace)
      (hs : Spells (opener :: ts) (.dictionary opener.location es)) :
      Anchored [] opener ts (.dictionary opener.location es)
  | function {ts : List Token} {keyword : Token} {ps : List String} {b : Expr}
      (hk : keyword.kind = .fnWord)
      (hs : Spells (keyword :: ts) (.function keyword.location ps b)) :
      Anchored [] keyword ts (.function keyword.location ps b)

theorem Literal.location_eq {negative : Bool} {t : Token} {place : Location} {e : Expr}
    (h : Literal negative t place e) : e.location = place := by
  cases h <;> rfl

theorem Anchored.location_eq {before after : List Token} {a : Token} {e : Expr}
    (h : Anchored before a after e) : e.location = a.location := by
  cases h with
  | number hl | negative _ _ hl => exact hl.location_eq
  | _ => rfl

/-- A node is anchored somewhere among tokens. -/
def AnchoredIn (ts : List Token) (e : Expr) : Prop :=
  ∃ before a after, before ++ a :: after <:+: ts ∧ Anchored before a after e

theorem Anchored.within {before after : List Token} {a : Token} {e : Expr}
    (h : Anchored before a after e) : AnchoredIn (before ++ a :: after) e :=
  ⟨before, a, after, List.infix_rfl, h⟩

theorem AnchoredIn.left {ts : List Token} {e : Expr} (h : AnchoredIn ts e) (us : List Token) :
    AnchoredIn (ts ++ us) e := by
  obtain ⟨before, a, after, hin, ha⟩ := h
  exact ⟨before, a, after, hin.trans (List.prefix_append ts us).isInfix, ha⟩

theorem AnchoredIn.right {ts : List Token} {e : Expr} (h : AnchoredIn ts e) (us : List Token) :
    AnchoredIn (us ++ ts) e := by
  obtain ⟨before, a, after, hin, ha⟩ := h
  exact ⟨before, a, after, hin.trans (List.suffix_append us ts).isInfix, ha⟩

theorem AnchoredIn.cons {ts : List Token} {e : Expr} (h : AnchoredIn ts e) (t : Token) :
    AnchoredIn (t :: ts) e :=
  h.right [t]

/-- Tokens that spell an expression to which suffixes can be put. -/
def SpellsBase (n : Nat) (us : List Token) (b : Expr) : Prop :=
  ∃ p xs ys, us = xs ++ ys ∧ Nests n (.primary p) xs ∧ Nests n (.suffixes p b) ys

theorem SpellsBase.spells {n : Nat} {us : List Token} {b : Expr} (h : SpellsBase n us b) :
    Spells us b := by
  obtain ⟨p, xs, ys, rfl, hp, hs⟩ := h
  exact ⟨n + 1, .chain hp hs⟩

theorem SpellsBase.suffix {n : Nat} {us ts : List Token} {b e : Expr} (h : SpellsBase n us b)
    (hs : Nests n (.suffixes b e) ts) : SpellsBase n (us ++ ts) e := by
  obtain ⟨p, xs, ys, rfl, hp, hys⟩ := h
  exact ⟨p, xs, ys ++ ts, List.append_assoc .., hp, hys.then_suffixes hs⟩

theorem spells_of_primary {n : Nat} {ts : List Token} {e : Expr} (h : Nests n (.primary e) ts) :
    Spells ts e :=
  ⟨n + 1, by simpa using Derives.chain h .noSuffix⟩

/-- All nodes of a phrase are anchored among its tokens; for suffixes, if those of
the base are among the tokens before. -/
def Phrase.AnchoredIn (n : Nat) (ts : List Token) : Phrase → Prop
  | .expression e => ∀ d ∈ e.nodes, Grammar.AnchoredIn ts d
  | .primary e => ∀ d ∈ e.nodes, Grammar.AnchoredIn ts d
  | .suffixes b e => ∀ us, SpellsBase n us b → (∀ d ∈ b.nodes, Grammar.AnchoredIn us d) →
      ∀ d ∈ e.nodes, Grammar.AnchoredIn (us ++ ts) d
  | .expressions es => ∀ d ∈ Expr.nodesAll es, Grammar.AnchoredIn ts d
  | .moreExpressions es => ∀ d ∈ Expr.nodesAll es, Grammar.AnchoredIn ts d
  | .entries es => ∀ d ∈ Expr.nodesEntries es, Grammar.AnchoredIn ts d
  | .moreEntries es => ∀ d ∈ Expr.nodesEntries es, Grammar.AnchoredIn ts d
  | .block es => ∀ d ∈ Expr.nodesAll es, Grammar.AnchoredIn ts d

theorem Literal.anchoredIn {negative : Bool} {t : Token} {place : Location} {e : Expr}
    {ts : List Token} (h : Literal negative t place e) (he : Grammar.AnchoredIn ts e) :
    ∀ d ∈ e.nodes, Grammar.AnchoredIn ts d := by
  have hnodes : e.nodes = [e] := by cases h <;> rfl
  rw [hnodes]
  exact List.forall_mem_singleton.mpr he

/-- Every node of a phrase is anchored among the tokens that derive it. -/
theorem Derives.anchored {n : Nat} {p : Phrase} {ts : List Token} (h : Nests n p ts) :
    p.AnchoredIn n ts := by
  induction h with
  | @function n keyword opener closer arrow ps names ts body hk ho hp hd hc ha hb ih =>
      have hself := Anchored.function hk ⟨_, .function hk ho hp hd hc ha hb⟩
      exact List.forall_mem_cons.mpr ⟨hself.within, fun d hm =>
        ((((((ih d hm).cons arrow).cons closer).right names).cons opener).cons keyword)⟩
  | chain hb hs ihb ihs => exact ihs _ ⟨_, _, [], by simp, hb, .noSuffix⟩ ihb
  | @group n opener closer e ts ho he hc ih =>
      exact fun d hm => ((ih d hm).left [closer]).cons opener
  | @choice n keyword opener comma comma' closer c a b ts us vs hk ho hc h1 ha h2 hb hr
      ihc iha ihb =>
      have hself := Anchored.choice hk (spells_of_primary (.choice hk ho hc h1 ha h2 hb hr))
      refine List.forall_mem_cons.mpr ⟨hself.within, ?_⟩
      refine List.forall_mem_append.mpr ⟨fun d hm => ?_, List.forall_mem_append.mpr ⟨?_, ?_⟩⟩
      · exact (((ihc d hm).left _).cons opener).cons keyword
      · exact fun d hm =>
          (((((iha d hm).left _).cons comma).right ts).cons opener).cons keyword
      · exact fun d hm => (((((((ihb d hm).left [closer]).cons comma').right us).cons
          comma).right ts).cons opener).cons keyword
  | name hk => exact List.forall_mem_singleton.mpr (Anchored.name hk).within
  | string hk => exact List.forall_mem_singleton.mpr (Anchored.string hk).within
  | number hl => exact hl.anchoredIn (Anchored.number hl).within
  | negative hk hat hl => exact hl.anchoredIn (Anchored.negative hk hat hl).within
  | @list n opener closer es ts ho he hc ih =>
      have hself := Anchored.list ho (spells_of_primary (.list ho he hc))
      exact List.forall_mem_cons.mpr ⟨hself.within, fun d hm =>
        ((ih d hm).left [closer]).cons opener⟩
  | @dictionary n opener closer es ts ho he hc ih =>
      have hself := Anchored.dictionary ho (spells_of_primary (.dictionary ho he hc))
      exact List.forall_mem_cons.mpr ⟨hself.within, fun d hm =>
        ((ih d hm).left [closer]).cons opener⟩
  | noSuffix => exact fun us _ hbase d hm => (hbase d hm).left []
  | @member n dot t base e ts hd hk hs ih =>
      intro us hus hbase
      have hself := Anchored.member hus.spells hd hk
      have hall := ih _ (hus.suffix (.member hd hk .noSuffix))
        (List.forall_mem_cons.mpr ⟨hself.within, fun d hm => (hbase d hm).left _⟩)
      simpa using hall
  | @index n opener closer base key e ts us ho hi hc hs ihi ihs =>
      intro ws hws hbase
      have hself := Anchored.index hws.spells ho ⟨_, hi⟩ hc
      have hall := ihs _ (hws.suffix (.index ho hi hc .noSuffix))
        (List.forall_mem_cons.mpr ⟨hself.within, List.forall_mem_append.mpr
          ⟨fun d hm => (hbase d hm).left _,
            fun d hm => (((ihi d hm).left [closer]).cons opener).right ws⟩⟩)
      simpa using hall
  | @call n opener closer base e es ts us ho ha hc hs iha ihs =>
      intro ws hws hbase
      have hself := Anchored.call hws.spells ho ha hc
      have hall := ihs _ (hws.suffix (.call ho ha hc .noSuffix))
        (List.forall_mem_cons.mpr ⟨hself.within, List.forall_mem_append.mpr
          ⟨fun d hm => (hbase d hm).left _,
            fun d hm => (((iha d hm).left [closer]).cons opener).right ws⟩⟩)
      simpa using hall
  | noExpressions | noMoreExpressions | noEntries | noMoreEntries | noChildren =>
      exact fun d hm => nomatch hm
  | @someExpressions n e es ts us he hs ihe ihs =>
      exact List.forall_mem_append.mpr
        ⟨fun d hm => (ihe d hm).left us, fun d hm => (ihs d hm).right ts⟩
  | @moreExpressions n comma e es ts us hc he hs ihe ihs =>
      exact List.forall_mem_append.mpr ⟨fun d hm => ((ihe d hm).left us).cons comma,
        fun d hm => ((ihs d hm).right ts).cons comma⟩
  | @someEntries n colon k v es ts us vs hk hc hv hs ihk ihv ihs =>
      refine List.forall_mem_append.mpr ⟨fun d hm => (ihk d hm).left _,
        List.forall_mem_append.mpr ⟨fun d hm => ?_, fun d hm => ?_⟩⟩
      · exact (((ihv d hm).left vs).cons colon).right ts
      · exact (((ihs d hm).right us).cons colon).right ts
  | @moreEntries n comma colon k v es ts us vs h1 hk hc hv hs ihk ihv ihs =>
      refine List.forall_mem_append.mpr ⟨fun d hm => ((ihk d hm).left _).cons comma,
        List.forall_mem_append.mpr ⟨fun d hm => ?_, fun d hm => ?_⟩⟩
      · exact ((((ihv d hm).left vs).cons colon).right ts).cons comma
      · exact ((((ihs d hm).right us).cons colon).right ts).cons comma
  | @textChild n t es ts hk hs ih =>
      exact List.forall_mem_append.mpr
        ⟨List.forall_mem_singleton.mpr ((Anchored.text hk).within.left ts),
          fun d hm => (ih d hm).cons t⟩
  | @expressionChild n opener closer e es ts us ho he hc hs ihe ihs =>
      exact List.forall_mem_append.mpr ⟨fun d hm => ((ihe d hm).left _).cons opener,
        fun d hm => (((ihs d hm).cons closer).right ts).cons opener⟩

end Grammar

end Inlay
