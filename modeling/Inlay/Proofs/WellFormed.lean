import Inlay.Proofs.Parsing
import Inlay.Proofs.Trees

/-!
# Well-formed trees

The conditions on a tree that its text imposes: names are words other than the
keywords, parameters differ from each other, integers have 64 bits and
floating-point numbers are finite. Every tree that is read meets them and takes no
more frames than the reader has (`parse_wellFormed`). The induction is on
derivations and carries both facts at once, since what a suffix is put to
decides on both.
-/

namespace Inlay

/-- A word that is no keyword. -/
def IsName (w : String) : Prop :=
  (∃ c more, w.toList = c :: more ∧ Lexer.isWordStart c = true ∧
    ∀ d ∈ more, Lexer.isWordPart d = true) ∧ w ≠ "if" ∧ w ≠ "fn"

/-- A tree in which every node could stand in a text. -/
inductive Expr.WellFormed : Expr → Prop
  | string {l : Location} {v : String} : WellFormed (.string l v)
  | integer {l : Location} {n : Int} (hn : Grammar.FitsInt64 n) :
      WellFormed (.integer l n)
  | float {l : Location} {x : Binary64} (hx : x.isFinite = true) : WellFormed (.float l x)
  | name {l : Location} {w : String} (hw : IsName w) : WellFormed (.name l w)
  | member {l : Location} {b : Expr} {w : String} (hb : WellFormed b) (hw : IsName w) :
      WellFormed (.member l b w)
  | index {l : Location} {b k : Expr} (hb : WellFormed b) (hk : WellFormed k) :
      WellFormed (.index l b k)
  | call {l : Location} {f : Expr} {es : List Expr} (hf : WellFormed f)
      (hes : ∀ e ∈ es, WellFormed e) : WellFormed (.call l f es)
  | choice {l : Location} {c a b : Expr} (hc : WellFormed c) (ha : WellFormed a)
      (hb : WellFormed b) : WellFormed (.choice l c a b)
  | list {l : Location} {es : List Expr} (hes : ∀ e ∈ es, WellFormed e) :
      WellFormed (.list l es)
  | dictionary {l : Location} {es : List (Expr × Expr)} (hk : ∀ p ∈ es, WellFormed p.1)
      (hv : ∀ p ∈ es, WellFormed p.2) : WellFormed (.dictionary l es)
  | function {l : Location} {ps : List String} {b : Expr} (hps : ∀ q ∈ ps, IsName q)
      (hd : ps.Nodup) (hb : WellFormed b) : WellFormed (.function l ps b)

/-- The nodes of a well-formed tree are well-formed. -/
theorem Expr.WellFormed.nodes {e : Expr} (h : e.WellFormed) : ∀ n ∈ e.nodes, n.WellFormed := by
  induction h with
  | string | integer hn | float hx | name hw =>
      intro n hmem
      cases List.mem_singleton.mp hmem
      constructor <;> assumption
  | member hb hw ih => exact List.forall_mem_cons.mpr ⟨.member hb hw, ih⟩
  | index hb hk ihb ihk =>
      exact List.forall_mem_cons.mpr ⟨.index hb hk, List.forall_mem_append.mpr ⟨ihb, ihk⟩⟩
  | call hf hes ihf ihes =>
      exact List.forall_mem_cons.mpr ⟨.call hf hes,
        List.forall_mem_append.mpr ⟨ihf, forall_mem_nodesAll.mpr ihes⟩⟩
  | choice hc ha hb ihc iha ihb =>
      exact List.forall_mem_cons.mpr ⟨.choice hc ha hb, List.forall_mem_append.mpr
        ⟨ihc, List.forall_mem_append.mpr ⟨iha, ihb⟩⟩⟩
  | list hes ih => exact List.forall_mem_cons.mpr ⟨.list hes, forall_mem_nodesAll.mpr ih⟩
  | dictionary hk hv ihk ihv =>
      refine List.forall_mem_cons.mpr ⟨.dictionary hk hv, fun n hn => ?_⟩
      rw [nodesEntries_eq] at hn
      obtain ⟨p, hp, hn⟩ := List.mem_flatMap.mp hn
      rcases List.mem_append.mp hn with hn | hn
      · exact ihk p hp n hn
      · exact ihv p hp n hn
  | function hps hd hb ih => exact List.forall_mem_cons.mpr ⟨.function hps hd hb, ih⟩

/-! ## Names of tokens -/

/-! ## Frames -/

namespace Expr

open Reader (Construct)

/-- The frames of an expression around parts that take `inner`, with `cost` of them
in between. An expression without parts takes the one that is its own. -/
def around (cost inner : Nat) : Nat := if inner = 0 then 1 else inner + cost + 1

/-- An expression that no suffix can be put to without parentheses around it. -/
def wrapped : Expr → Bool
  | .function .. => true
  | _ => false

/-- The frames of an expression that a suffix is put to. -/
def base (between : Construct → Nat) (frames : Nat) (e : Expr) : Nat :=
  if e.wrapped then around (between .group) frames else frames

mutual

/-- The frames that an expression takes in the text that spells it with the fewest
parentheses. What a suffix is put to is read by the rule that reads the whole. -/
def frames (between : Construct → Nat) : Expr → Nat
  | .member _ b _ => base between (frames between b) b
  | .index _ b k =>
    max (base between (frames between b) b) (around (between .index) (frames between k))
  | .call _ f es =>
    max (base between (frames between f) f) (around (between .call) (framesAll between es))
  | .choice _ c a b => around (between .choice)
      (max (frames between c) (max (frames between a) (frames between b)))
  | .list _ es => around (between .list) (framesAll between es)
  | .dictionary _ es => around (between .dictionary) (framesEntries between es)
  | .function _ _ b => around (between .function) (frames between b)
  | _ => 1

/-- The frames that any of some elements may take. -/
def framesAll (between : Construct → Nat) : List Expr → Nat
  | [] => 0
  | e :: es => max (frames between e) (framesAll between es)

/-- The frames that any of some entries may take. -/
def framesEntries (between : Construct → Nat) : List (Expr × Expr) → Nat
  | [] => 0
  | (k, v) :: es =>
    max (max (frames between k) (frames between v)) (framesEntries between es)

end

variable {between : Construct → Nat} {n : Nat}

theorem framesAll_le {es : List Expr} :
    framesAll between es ≤ n ↔ ∀ e ∈ es, e.frames between ≤ n := by
  induction es with
  | nil => simp [framesAll]
  | cons e es ih => rw [framesAll, Nat.max_le, ih, List.forall_mem_cons]

theorem framesEntries_le {es : List (Expr × Expr)} :
    framesEntries between es ≤ n ↔
      ∀ p ∈ es, p.1.frames between ≤ n ∧ p.2.frames between ≤ n := by
  induction es with
  | nil => simp [framesEntries]
  | cons p es ih => rw [framesEntries, Nat.max_le, Nat.max_le, ih, List.forall_mem_cons]

theorem around_le {cost inner : Nat} : around cost inner ≤ n + 1 ↔ inner ≤ n - cost := by
  unfold around
  split <;> omega

theorem around_pos (cost inner : Nat) : 0 < around cost inner := by
  unfold around
  split <;> exact Nat.succ_pos _

theorem base_pos {frames : Nat} (h : 0 < frames) (e : Expr) : 0 < base between frames e := by
  unfold base
  split
  · exact around_pos _ _
  · exact h

theorem frames_pos (between : Construct → Nat) (e : Expr) : 0 < e.frames between := by
  induction e using induction with
  | member l b w ih => exact base_pos ih b
  | index l b k ihb ihk => exact Nat.lt_of_lt_of_le (base_pos ihb b) (Nat.le_max_left ..)
  | call l f es ihf ihes => exact Nat.lt_of_lt_of_le (base_pos ihf f) (Nat.le_max_left ..)
  | choice | list | dictionary | function => exact around_pos _ _
  | _ => exact Nat.one_pos

/-- In parentheses an expression may be put to a suffix, whether it needs them or not. -/
theorem base_le {frames : Nat} {e : Expr} (h : frames ≤ n - between .group) :
    base between frames e ≤ n + 1 := by
  unfold base
  split
  · exact around_le.mpr h
  · omega

end Expr

namespace Lexer

theorem Lexeme.identifier_name {s : List Char} (h : Lexeme .identifier s) :
    IsName (String.ofList s) := by
  generalize hk : TokenKind.identifier = kind at h
  cases h with
  | @word c more hc hm =>
      refine ⟨⟨c, more, String.toList_ofList, hc, hm⟩, ?_, ?_⟩
      · intro hif
        have : c :: more = ['i', 'f'] := by rw [← String.toList_ofList (l := c :: more), hif]; rfl
        rw [this] at hk
        cases hk
      · intro hfn
        have : c :: more = ['f', 'n'] := by rw [← String.toList_ofList (l := c :: more), hfn]; rfl
        rw [this] at hk
        cases hk
  | sign hc =>
      subst hk
      unfold signKind? at hc
      split at hc <;> cases hc
  | _ => cases hk

/-- Identifier tokens are names. -/
theorem run_names {mode : Mode} {place : Location} {cs : List Char} {r : Lexed}
    (h : Run mode place cs r) : ∀ t ∈ r.tokens, t.kind = .identifier → IsName t.text := by
  induction h with
  | done mode place => simp
  | opening hr ih => exact List.forall_mem_cons.mpr ⟨by simp, ih⟩
  | text hne hmark hstop hr ih => exact List.forall_mem_cons.mpr ⟨by simp, ih⟩
  | gap hc hr ih => exact ih
  | lexeme hl hr ih =>
      refine List.forall_mem_cons.mpr ⟨fun hk => ?_, ih⟩
      dsimp only at hk
      subst hk
      exact hl.identifier_name
  | fault hf => simp

end Lexer

namespace Grammar

/-! ## What is derived is well-formed -/

variable {between : Reader.Construct → Nat}

/-- A well-formed expression that takes so many frames at most. -/
def Within (between : Reader.Construct → Nat) (n : Nat) (e : Expr) : Prop :=
  e.WellFormed ∧ e.frames between ≤ n

/-- The same under a suffix. -/
def WithinBase (between : Reader.Construct → Nat) (n : Nat) (e : Expr) : Prop :=
  e.WellFormed ∧ Expr.base between (e.frames between) e ≤ n

/-- What a phrase that is derived says of its trees. -/
def Phrase.Within (between : Reader.Construct → Nat) (n : Nat) : Phrase → Prop
  | .expression e => Grammar.Within between n e
  | .primary e => WithinBase between (n + 1) e
  | .suffixes base e => WithinBase between (n + 1) base → WithinBase between (n + 1) e
  | .expressions es | .moreExpressions es => ∀ e ∈ es, Grammar.Within between n e
  | .entries es | .moreEntries es =>
    ∀ p ∈ es, Grammar.Within between n p.1 ∧ Grammar.Within between n p.2
  | .block es => 0 < n → ∀ e ∈ es, Grammar.Within between n e

def Named (ts : List Token) : Prop := ∀ t ∈ ts, t.kind = .identifier → IsName t.text

theorem Named.left {ts us : List Token} (h : Named (ts ++ us)) : Named ts :=
  fun t ht => h t (List.mem_append_left us ht)

theorem Named.right {ts us : List Token} (h : Named (ts ++ us)) : Named us :=
  fun t ht => h t (List.mem_append_right ts ht)

theorem Named.tail {t : Token} {ts : List Token} (h : Named (t :: ts)) : Named ts :=
  fun u hu => h u (List.mem_cons_of_mem t hu)

theorem Named.head {t : Token} {ts : List Token} (h : Named (t :: ts))
    (hk : t.kind = .identifier) : IsName t.text :=
  h t (List.mem_cons_self ..) hk

theorem Names.wellFormed {ps : List String} {ts : List Token} (h : Names ps ts)
    (hts : Named ts) : ∀ q ∈ ps, IsName q := by
  induction h with
  | one hk => exact List.forall_mem_singleton.mpr (hts.head hk)
  | more hk hc hs ih => exact List.forall_mem_cons.mpr ⟨hts.head hk, ih hts.tail.tail⟩

theorem Parameters.wellFormed {ps : List String} {ts : List Token} (h : Parameters ps ts)
    (hts : Named ts) : ∀ q ∈ ps, IsName q := by
  cases h with
  | none => simp
  | some hs => exact hs.wellFormed hts

theorem Literal.within {negative : Bool} {t : Token} {place : Location} {e : Expr}
    (h : Literal negative t place e) (n : Nat) : WithinBase between (n + 1) e := by
  cases h with
  | integer hk hr => exact ⟨.integer hr, Nat.le_add_left 1 n⟩
  | float hk hx hf => exact ⟨.float hf, Nat.le_add_left 1 n⟩

/-- A function is put to a suffix in parentheses, and nothing else has to be. -/
theorem WithinBase.within {n : Nat} {e : Expr} (h : WithinBase between n e) :
    Within between n e := by
  refine ⟨h.1, Nat.le_trans ?_ h.2⟩
  unfold Expr.base Expr.around
  split
  · split <;> omega
  · exact Nat.le_refl _

/-- The trees of a derivation are well-formed and take no more frames than it does. -/
theorem Derives.within {n : Nat} {p : Phrase} {ts : List Token} (h : Derives between n p ts)
    (hts : Named ts) : p.Within between n := by
  induction h with
  | function hk ho hp hd hc ha hb ih =>
      obtain ⟨hwf, hn⟩ := ih hts.tail.tail.right.tail.tail
      exact ⟨.function (hp.wellFormed hts.tail.tail.left) hd hwf, Expr.around_le.mpr hn⟩
  | chain hb hs ihb ihs => exact (ihs hts.right (ihb hts.left)).within
  | group ho he hc ih =>
      obtain ⟨hwf, hn⟩ := ih hts.tail.left
      exact ⟨hwf, Expr.base_le hn⟩
  | choice hk ho hc h1 ha h2 hb hr ihc iha ihb =>
      have hts1 := hts.tail.tail
      obtain ⟨hwfc, hnc⟩ := ihc hts1.left
      obtain ⟨hwfa, hna⟩ := iha hts1.right.tail.left
      obtain ⟨hwfb, hnb⟩ := ihb hts1.right.tail.right.tail.left
      exact ⟨.choice hwfc hwfa hwfb,
        Expr.around_le.mpr (Nat.max_le.mpr ⟨hnc, Nat.max_le.mpr ⟨hna, hnb⟩⟩)⟩
  | @name n _ hk => exact ⟨.name (hts.head hk), Nat.le_add_left 1 n⟩
  | @string n _ hk => exact ⟨.string, Nat.le_add_left 1 n⟩
  | @number n _ _ hl => exact hl.within n
  | @negative n _ _ _ hk hat hl => exact hl.within n
  | list ho he hc ih =>
      have hes := ih hts.tail.left
      exact ⟨.list fun e he => (hes e he).1,
        Expr.around_le.mpr (Expr.framesAll_le.mpr fun e he => (hes e he).2)⟩
  | dictionary ho he hc ih =>
      have hes := ih hts.tail.left
      exact ⟨.dictionary (fun p hp => (hes p hp).1.1) (fun p hp => (hes p hp).2.1),
        Expr.around_le.mpr (Expr.framesEntries_le.mpr fun p hp =>
          ⟨(hes p hp).1.2, (hes p hp).2.2⟩)⟩
  | noSuffix => exact id
  | member hd hk hs ih =>
      intro hbase
      exact ih hts.tail.tail ⟨.member hbase.1 (hts.tail.head hk), hbase.2⟩
  | index ho hi hc hs ihi ihs =>
      intro hbase
      obtain ⟨hwf, hn⟩ := ihi hts.tail.left
      exact ihs hts.tail.right.tail
        ⟨.index hbase.1 hwf, Nat.max_le.mpr ⟨hbase.2, Expr.around_le.mpr hn⟩⟩
  | call ho ha hc hs iha ihs =>
      intro hbase
      have hes := iha hts.tail.left
      exact ihs hts.tail.right.tail ⟨.call hbase.1 fun e he => (hes e he).1,
        Nat.max_le.mpr ⟨hbase.2,
          Expr.around_le.mpr (Expr.framesAll_le.mpr fun e he => (hes e he).2)⟩⟩
  | noExpressions => exact fun _ h => nomatch h
  | someExpressions he hs ihe ihs =>
      exact List.forall_mem_cons.mpr ⟨ihe hts.left, ihs hts.right⟩
  | noMoreExpressions => exact fun _ h => nomatch h
  | moreExpressions hc he hs ihe ihs =>
      exact List.forall_mem_cons.mpr ⟨ihe hts.tail.left, ihs hts.tail.right⟩
  | noEntries => exact fun _ h => nomatch h
  | someEntries hk hc hv hs ihk ihv ihs =>
      exact List.forall_mem_cons.mpr
        ⟨⟨ihk hts.left, ihv hts.right.tail.left⟩, ihs hts.right.tail.right⟩
  | noMoreEntries => exact fun _ h => nomatch h
  | moreEntries h1 hk hc hv hs ihk ihv ihs =>
      exact List.forall_mem_cons.mpr
        ⟨⟨ihk hts.tail.left, ihv hts.tail.right.tail.left⟩, ihs hts.tail.right.tail.right⟩
  | noChildren => exact fun _ _ h => nomatch h
  | textChild hk hs ih =>
      exact fun hn => List.forall_mem_cons.mpr ⟨⟨.string, hn⟩, ih hts.tail hn⟩
  | expressionChild ho he hc hs ihe ih =>
      exact fun hn => List.forall_mem_cons.mpr ⟨ihe hts.tail.left, ih hts.tail.right.tail hn⟩

end Grammar

/-- Whatever is read from a text is well-formed and takes no more frames than the
reader has. -/
theorem parse_wellFormed {stack : Reader.Stack} {text : String} {t : Template}
    (h : Template.parse stack text = .ok t) :
    ∀ e ∈ t.children, e.WellFormed ∧ e.frames stack.between ≤ stack.room := by
  have hrun := Lexer.tokensFrom_run .plain .start text.toList
  have hnames : Grammar.Named (tokenize text).tokens := Lexer.run_names hrun
  obtain ⟨-, body, last, heq, -, hd, -⟩ := parse_block h
  exact hd.within (heq ▸ hnames).left stack.positive

theorem parse_nodes_wellFormed {stack : Reader.Stack} {text : String} {t : Template}
    (h : Template.parse stack text = .ok t) : ∀ n ∈ Expr.nodesAll t.children, n.WellFormed :=
  Expr.forall_mem_nodesAll.mpr fun e he => (parse_wellFormed h e he).1.nodes

end Inlay
