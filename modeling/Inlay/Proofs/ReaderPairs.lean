import Mathlib.Data.List.Forall2
import Inlay.Proofs.ReaderRules

/-!
# Two readings side by side

The reader looks at the kinds of tokens, at whether a minus touches its number
and, where a number or a parameter stands, at the text. So it takes the same way
through tokens and through what a map makes of them, if the map keeps these
things (`Similar`). One walk through its rules shows this for all such maps, up
to the children of a template (`children_paired`); what the map makes of places,
of trees and of reasons to stop is left to it.

A rule hands on what it has been told of its tokens: `Left` holds of the tokens
that are still to be read whenever a rule begins, and is kept by each token that
is taken (`Similar.move`).
-/

namespace Inlay

namespace Reader

/-! ## Pairs of outcomes -/

/-- How two readings may stop: each for a reason of its own, or the first one
alone. -/
structure Stops where
  both : Stop → Stop → Prop
  alone : Stop → Prop

/-- Two readings that come to related results, or stop as they may. -/
inductive Paired (S : Stops) {α β : Type} (P : α → β → Prop) :
    Except Stop α → Except Stop β → Prop
  | ok {a : α} {b : β} (h : P a b) : Paired S P (.ok a) (.ok b)
  | both {stop stop' : Stop} (h : S.both stop stop') : Paired S P (.error stop) (.error stop')
  | alone {stop : Stop} (h : S.alone stop) (y : Except Stop β) : Paired S P (.error stop) y

section

variable {S : Stops} {α β γ δ : Type} {P : α → β → Prop} {Q : γ → δ → Prop} {x : Except Stop α}
  {y : Except Stop β}

theorem Paired.bind {g : α → Except Stop γ} {h : β → Except Stop δ} (hxy : Paired S P x y)
    (hgh : ∀ a b, P a b → Paired S Q (g a) (h b)) : Paired S Q (x >>= g) (y >>= h) := by
  cases hxy with
  | ok hab => exact hgh _ _ hab
  | both hs => exact .both hs
  | alone hs y => exact .alone hs _

theorem Paired.map {g : α → γ} {h : β → δ} (hxy : Paired S P x y)
    (hgh : ∀ a b, P a b → Q (g a) (h b)) : Paired S Q (x.map g) (y.map h) := by
  cases hxy with
  | ok hab => exact .ok (hgh _ _ hab)
  | both hs => exact .both hs
  | alone hs y => exact .alone hs _

theorem Paired.imp {P' : α → β → Prop} (hxy : Paired S P x y) (h : ∀ a b, P a b → P' a b) :
    Paired S P' x y := by
  cases hxy with
  | ok hab => exact .ok (h _ _ hab)
  | both hs => exact .both hs
  | alone hs y => exact .alone hs y

end

/-! ## Maps of tokens -/

/-- The kinds of tokens that say all there is to say by themselves: a number is
read by its digits, a minus goes with its number, and nothing comes after the
ending token. -/
def Passing (k : TokenKind) : Prop := k ≠ .integer ∧ k ≠ .minus ∧ k ≠ .ending

/-- What has to be true of a map of tokens, of what is known of the tokens that
are left, of trees and of stops, for the reader to keep them in step. -/
structure Similar (φ : Token → Token) (Left : List Token → Prop) (E : Expr → Expr → Prop)
    (S : Stops) : Prop where
  kind : ∀ t, (φ t).kind = t.kind
  text : ∀ {t}, t.kind = .identifier → (φ t).text = t.text
  touches : ∀ {minus t ts}, Left (minus :: t :: ts) → minus.kind = .minus →
    t.kind = .integer ∨ t.kind = .float →
    ((φ t).location = (φ minus).location.next ↔ t.location = minus.location.next)
  /-- A token is passed. -/
  move : ∀ {t ts}, Left (t :: ts) → Passing t.kind → Left ts
  -- reasons to stop
  cutShort : ∀ {ts}, Left ts → (∀ t ∈ ts, t.kind ≠ .ending) → S.both .cutShort .cutShort
  tooDeep : ∀ {ts t}, Left ts → t ∈ ts →
    S.both (.failure (.tooDeep t.location)) (.failure (.tooDeep (φ t).location))
  expected : ∀ (what : Expectation) {ts t}, Left ts → t ∈ ts →
    S.both (.failure (.rejected (.expected what t.description) t.location))
      (.failure (.rejected (.expected what (φ t).description) (φ t).location))
  duplicate : ∀ {ts t}, Left ts → t ∈ ts → t.kind = .identifier →
    S.both (.failure (.rejected (.duplicateParameter t.text) t.location))
      (.failure (.rejected (.duplicateParameter t.text) (φ t).location))
  -- trees
  number : ∀ {t ts}, Left (t :: ts) → t.kind = .integer ∨ t.kind = .float →
    Paired S (fun e e' => E e e' ∧ Left ts) (Reader.number false t t.location)
      (Reader.number false (φ t) (φ t).location)
  negative : ∀ {minus t ts}, Left (minus :: t :: ts) → minus.kind = .minus →
    t.kind = .integer ∨ t.kind = .float → t.location = minus.location.next →
    Paired S (fun e e' => E e e' ∧ Left ts) (Reader.number true t minus.location)
      (Reader.number true (φ t) (φ minus).location)
  string : ∀ t, t.kind = .string ∨ t.kind = .text →
    E (.string t.location t.text) (.string (φ t).location (φ t).text)
  name : ∀ t, t.kind = .identifier → E (.name t.location t.text) (.name (φ t).location (φ t).text)
  member : ∀ t {w e e'}, w.kind = .identifier → E e e' →
    E (.member t.location e w.text) (.member (φ t).location e' (φ w).text)
  index : ∀ t {e e' k k'}, E e e' → E k k' → E (.index t.location e k) (.index (φ t).location e' k')
  call : ∀ t {e e' es es'}, E e e' → List.Forall₂ E es es' →
    E (.call t.location e es) (.call (φ t).location e' es')
  choice : ∀ t {c c' a a' b b'}, E c c' → E a a' → E b b' →
    E (.choice t.location c a b) (.choice (φ t).location c' a' b')
  list : ∀ t {es es'}, List.Forall₂ E es es' → E (.list t.location es) (.list (φ t).location es')
  dictionary : ∀ t {es es'}, List.Forall₂ (fun p q => E p.1 q.1 ∧ E p.2 q.2) es es' →
    E (.dictionary t.location es) (.dictionary (φ t).location es')
  function : ∀ t {ps e e'}, E e e' →
    E (.function t.location ps e) (.function (φ t).location ps e')

variable {φ : Token → Token} {Left : List Token → Prop} {E : Expr → Expr → Prop} {S : Stops}

/-- What two rules have read and what they leave. -/
def Parsed.Pair (φ : Token → Token) (Left : List Token → Prop) {α β : Type} (P : α → β → Prop)
    {ts us : List Token} : Parsed α ts → Parsed β us → Prop
  | ⟨a, r, _⟩, ⟨b, r', _⟩ => P a b ∧ Left r ∧ r' = r.map φ

/-- The same for rules that may take no token at all. -/
def LeftPair (φ : Token → Token) (Left : List Token → Prop) {α β : Type} (P : α → β → Prop)
    {m n : Nat} :
    { r : α × List Token // r.2.length ≤ m } → { r : β × List Token // r.2.length ≤ n } → Prop
  | ⟨(a, r), _⟩, ⟨(b, r'), _⟩ => P a b ∧ Left r ∧ r' = r.map φ

/-- A token that was taken and its image. -/
structure Taken (φ : Token → Token) (Left : List Token → Prop) (k : TokenKind) (t u : Token) :
    Prop where
  image : u = φ t
  kind : t.kind = k
  stood : ∃ ts, Left ts ∧ t ∈ ts

section

variable (sim : Similar φ Left E S)
include sim

/-! ## Single tokens -/

theorem kind_map (ts : List Token) : Reader.kind (ts.map φ) = Reader.kind ts := by
  cases ts with
  | nil => rfl
  | cons t ts => exact sim.kind t

theorem take_paired {mode : Mode} {ts : List Token} (h : Left ts)
    (hk : Passing (Reader.kind ts)) :
    Paired S (Parsed.Pair φ Left (Taken φ Left (Reader.kind ts))) (take mode ts)
      (take mode (ts.map φ)) := by
  match ts with
  | [] => exact absurd rfl hk.2.2
  | [_] => exact .both (sim.cutShort h (List.forall_mem_singleton.mpr hk.2.2))
  | t :: u :: rest => exact .ok ⟨⟨rfl, rfl, _, h, List.mem_cons_self ..⟩, sim.move h hk, rfl⟩

theorem reject_paired {α β : Type} (P : α → β → Prop) (mode : Mode) (what : Expectation)
    {ts : List Token} (h : Left ts) :
    Paired S P (reject mode what ts) (reject mode what (ts.map φ)) := by
  cases ts with
  | nil => exact .both (sim.cutShort h (by simp))
  | cons t ts => exact .both (sim.expected what h (List.mem_cons_self ..))

theorem giveUp_paired {α β : Type} (P : α → β → Prop) {ts : List Token} (h : Left ts) :
    Paired S P (giveUp ts) (giveUp (ts.map φ)) := by
  cases ts with
  | nil => exact .both (sim.cutShort h (by simp))
  | cons t ts => exact .both (sim.tooDeep h (List.mem_cons_self ..))

theorem expect_paired {mode : Mode} {wanted : TokenKind} (hw : Passing wanted)
    (what : Expectation) {ts : List Token} (h : Left ts) :
    Paired S (Parsed.Pair φ Left (Taken φ Left wanted)) (expect mode wanted what ts)
      (expect mode wanted what (ts.map φ)) := by
  rw [expect_eq mode wanted what ts, expect_eq mode wanted what (ts.map φ), kind_map sim]
  split
  · rename_i hk
    subst hk
    exact take_paired sim h hw
  · exact reject_paired sim _ mode what h

/-! ## Numbers -/

/-- The reading of a number token in the place of a primary expression. -/
theorem plainNumber_paired {ts : List Token} (h : Left ts)
    (hk : Reader.kind ts = .integer ∨ Reader.kind ts = .float) :
    Paired S (Parsed.Pair φ Left E)
      (do
        let t ← take .expression ts
        let e ← made (number false t.value t.value.location)
        return t.map fun _ => e : Reads Expr ts)
      (do
        let t ← take .expression (ts.map φ)
        let e ← made (number false t.value t.value.location)
        return t.map fun _ => e) := by
  have hend : Reader.kind ts ≠ .ending := by rcases hk with hk | hk <;> simp [hk]
  match ts with
  | [] => exact absurd rfl hend
  | [_] => exact .both (sim.cutShort h (List.forall_mem_singleton.mpr hend))
  | t :: u :: rest =>
      refine (sim.number h hk).bind fun e e' he => ?_
      exact .ok ⟨he.1, he.2, rfl⟩

theorem negativeNumber_paired {ts : List Token} (h : Left ts) (hk : Reader.kind ts = .minus) :
    Paired S (Parsed.Pair φ Left E) (negativeNumber ts) (negativeNumber (ts.map φ)) := by
  match ts with
  | [] => cases hk
  | [minus] =>
      have hminus : minus.kind = .minus := hk
      exact .both (sim.cutShort h (by simp [hminus]))
  | minus :: t :: rest =>
      have hminus : minus.kind = .minus := hk
      have hsame : ((φ t).kind = .integer ∨ (φ t).kind = .float) ∧
            (φ t).location = (φ minus).location.next ↔
          (t.kind = .integer ∨ t.kind = .float) ∧ t.location = minus.location.next := by
        rw [sim.kind]
        exact and_congr_right (sim.touches h hminus)
      change Paired S _
        (if (t.kind = .integer ∨ t.kind = .float) ∧ t.location = minus.location.next then _ else _)
        (if ((φ t).kind = .integer ∨ (φ t).kind = .float) ∧
            (φ t).location = (φ minus).location.next then _ else _)
      by_cases hnumber : (t.kind = .integer ∨ t.kind = .float) ∧ t.location = minus.location.next
      · rw [if_pos hnumber, if_pos (hsame.mpr hnumber)]
        obtain ⟨hkind, hat⟩ := hnumber
        have hend : t.kind ≠ .ending := by rcases hkind with hkind | hkind <;> simp [hkind]
        cases rest with
        | nil => exact .both (sim.cutShort h (by simp [hminus, hend]))
        | cons u rest =>
            refine (sim.negative h hminus hkind hat).bind fun e e' he => ?_
            exact .ok ⟨he.1, he.2, rfl⟩
      · rw [if_neg hnumber, if_neg (mt hsame.mp hnumber)]
        exact .both (sim.expected .adjacentNumber h (by simp))

/-! ## Lists with commas -/

section

variable {α σ : Type} {P : α → α → Prop} {item : σ → ReaderIn (Except Stop) α}
  {next : σ → α → σ}
  (hitem : ∀ s ts, Left ts → Paired S (Parsed.Pair φ Left P) (item s ts) (item s (ts.map φ)))
  (hnext : ∀ s a b, P a b → next s a = next s b)
include hitem hnext

/-- Items after commas are read in step if each of them is. -/
theorem moreItems_paired (s : σ) {ts : List Token} (h : Left ts) :
    Paired S (LeftPair φ Left (List.Forall₂ P)) (moreItems item next s ts)
      (moreItems item next s (ts.map φ)) := by
  rw [moreItems, moreItems, look_bind, look_bind, kind_map sim]
  split
  · rename_i hk
    refine (take_paired sim h (by simp [Passing, hk])).bind ?_
    rintro ⟨comma, rest, hlt⟩ ⟨_, _, _⟩ ⟨-, hrest, rfl⟩
    refine (hitem s rest hrest).bind ?_
    rintro ⟨a, rest', hlt'⟩ ⟨b, _, _⟩ ⟨hab, hrest', rfl⟩
    have hlater := moreItems_paired (next s a) hrest'
    dsimp only
    rw [← hnext s a b hab]
    refine hlater.bind ?_
    rintro ⟨⟨as, rest''⟩, _⟩ ⟨⟨bs, _⟩, _⟩ ⟨hlists, hrest'', rfl⟩
    exact .ok ⟨.cons hab hlists, hrest'', rfl⟩
  · exact .ok ⟨.nil, h, rfl⟩
termination_by ts.length

/-- So are items up to a closing token. -/
theorem items_paired (s : σ) {closer : TokenKind} (hc : Passing closer) (what : Expectation)
    {ts : List Token} (h : Left ts) :
    Paired S (Parsed.Pair φ Left (List.Forall₂ P)) (items item next s closer what ts)
      (items item next s closer what (ts.map φ)) := by
  rw [items, items, look_bind, look_bind, kind_map sim]
  split
  · rename_i hk
    refine (take_paired sim h (hk ▸ hc)).bind ?_
    rintro ⟨close, rest, _⟩ ⟨_, _, _⟩ ⟨-, hrest, rfl⟩
    exact .ok ⟨.nil, hrest, rfl⟩
  · refine (hitem s ts h).bind ?_
    rintro ⟨a, rest, _⟩ ⟨b, _, _⟩ ⟨hab, hrest, rfl⟩
    dsimp only
    rw [← hnext s a b hab]
    refine (moreItems_paired sim hitem hnext (next s a) hrest).bind ?_
    rintro ⟨⟨as, rest'⟩, _⟩ ⟨⟨bs, _⟩, _⟩ ⟨hlists, hrest', rfl⟩
    refine (expect_paired sim hc _ hrest').bind ?_
    rintro ⟨close, rest'', _⟩ ⟨_, _, _⟩ ⟨-, hrest'', rfl⟩
    exact .ok ⟨.cons hab hlists, hrest'', rfl⟩

end

/-! ## Parameters -/

theorem parameter_paired (before : List String) {ts : List Token} (h : Left ts) :
    Paired S (Parsed.Pair φ Left Eq) (parameter before ts) (parameter before (ts.map φ)) := by
  refine (expect_paired sim (by simp [Passing]) _ h).bind ?_
  rintro ⟨t, rest, _⟩ ⟨_, _, _⟩ ⟨⟨rfl, hk, us, hus, hmem⟩, hrest, rfl⟩
  dsimp only
  rw [sim.text hk]
  split
  · exact .both (sim.duplicate hus hmem hk)
  · exact .ok ⟨(sim.text hk).symm, hrest, rfl⟩

theorem parameters_paired {ts : List Token} (h : Left ts) :
    Paired S (Parsed.Pair φ Left Eq) (parameters ts) (parameters (ts.map φ)) := by
  have hitems : Paired S (Parsed.Pair φ Left (List.Forall₂ Eq)) (parameters ts)
      (parameters (ts.map φ)) :=
    items_paired sim (fun before _ => parameter_paired sim before)
      (fun before _ _ => congrArg (before ++ [·])) [] (by simp [Passing]) .rightParen h
  rwa [List.forall₂_eq_eq_eq] at hitems

end

/-! ## Elements and entries -/

/-- A reader of one expression that keeps the two readings in step. -/
def PairedReader (φ : Token → Token) (Left : List Token → Prop) (E : Expr → Expr → Prop)
    (S : Stops) (one : ExprReader) : Prop :=
  ∀ ts, Left ts → Paired S (Parsed.Pair φ Left E) (one ts) (one (ts.map φ))

section

variable (sim : Similar φ Left E S) {one : ExprReader} (hone : PairedReader φ Left E S one)
include sim hone

theorem expressions_paired {closer : TokenKind} (hc : Passing closer) (what : Expectation)
    {ts : List Token} (h : Left ts) :
    Paired S (Parsed.Pair φ Left (List.Forall₂ E)) (expressions one closer what ts)
      (expressions one closer what (ts.map φ)) :=
  items_paired sim (fun _ => hone) (fun _ _ _ _ => rfl) () hc what h

theorem entry_paired {ts : List Token} (h : Left ts) :
    Paired S (Parsed.Pair φ Left fun p q => E p.1 q.1 ∧ E p.2 q.2) (entry one ts)
      (entry one (ts.map φ)) := by
  refine (hone _ h).bind ?_
  rintro ⟨k, rest, _⟩ ⟨_, _, _⟩ ⟨hk, hrest, rfl⟩
  refine (expect_paired sim (by simp [Passing]) _ hrest).bind ?_
  rintro ⟨colon, rest', _⟩ ⟨_, _, _⟩ ⟨-, hrest', rfl⟩
  refine (hone _ hrest').bind ?_
  rintro ⟨v, rest'', _⟩ ⟨_, _, _⟩ ⟨hv, hrest'', rfl⟩
  exact .ok ⟨⟨hk, hv⟩, hrest'', rfl⟩

theorem entries_paired {ts : List Token} (h : Left ts) :
    Paired S (Parsed.Pair φ Left (List.Forall₂ fun p q => E p.1 q.1 ∧ E p.2 q.2))
      (entries one ts) (entries one (ts.map φ)) :=
  items_paired sim (fun _ _ => entry_paired sim hone) (fun _ _ _ _ => rfl) () (by simp [Passing])
    .rightBrace h

/-! ## Expressions -/

theorem function_paired {ts : List Token} (h : Left ts) (hk : Reader.kind ts = .fnWord) :
    Paired S (Parsed.Pair φ Left E) (function one ts) (function one (ts.map φ)) := by
  refine (take_paired sim h (by simp [Passing, hk])).bind ?_
  rintro ⟨keyword, rest, _⟩ ⟨_, _, _⟩ ⟨⟨rfl, -, -⟩, hrest, rfl⟩
  refine (expect_paired sim (by simp [Passing]) _ hrest).bind ?_
  rintro ⟨paren, rest, _⟩ ⟨_, _, _⟩ ⟨-, hrest, rfl⟩
  refine (parameters_paired sim hrest).bind ?_
  rintro ⟨names, rest, _⟩ ⟨_, _, _⟩ ⟨rfl, hrest, rfl⟩
  refine (expect_paired sim (by simp [Passing]) _ hrest).bind ?_
  rintro ⟨arrow, rest, _⟩ ⟨_, _, _⟩ ⟨-, hrest, rfl⟩
  refine (hone _ hrest).bind ?_
  rintro ⟨body, rest, _⟩ ⟨_, _, _⟩ ⟨hbody, hrest, rfl⟩
  exact .ok ⟨sim.function keyword hbody, hrest, rfl⟩

theorem choice_paired {ts : List Token} (h : Left ts) (hk : Reader.kind ts = .ifWord) :
    Paired S (Parsed.Pair φ Left E) (choice one ts) (choice one (ts.map φ)) := by
  refine (take_paired sim h (by simp [Passing, hk])).bind ?_
  rintro ⟨keyword, rest, _⟩ ⟨_, _, _⟩ ⟨⟨rfl, -, -⟩, hrest, rfl⟩
  refine (expect_paired sim (by simp [Passing]) _ hrest).bind ?_
  rintro ⟨paren, rest, _⟩ ⟨_, _, _⟩ ⟨-, hrest, rfl⟩
  refine (hone _ hrest).bind ?_
  rintro ⟨c, rest, _⟩ ⟨_, _, _⟩ ⟨hc, hrest, rfl⟩
  refine (expect_paired sim (by simp [Passing]) _ hrest).bind ?_
  rintro ⟨comma, rest, _⟩ ⟨_, _, _⟩ ⟨-, hrest, rfl⟩
  refine (hone _ hrest).bind ?_
  rintro ⟨a, rest, _⟩ ⟨_, _, _⟩ ⟨ha, hrest, rfl⟩
  refine (expect_paired sim (by simp [Passing]) _ hrest).bind ?_
  rintro ⟨comma', rest, _⟩ ⟨_, _, _⟩ ⟨-, hrest, rfl⟩
  refine (hone _ hrest).bind ?_
  rintro ⟨b, rest, _⟩ ⟨_, _, _⟩ ⟨hb, hrest, rfl⟩
  refine (expect_paired sim (by simp [Passing]) _ hrest).bind ?_
  rintro ⟨close, rest, _⟩ ⟨_, _, _⟩ ⟨-, hrest, rfl⟩
  exact .ok ⟨sim.choice keyword hc ha hb, hrest, rfl⟩

end

section

variable (sim : Similar φ Left E S) {one : Construct → ExprReader}
  (hone : ∀ c, PairedReader φ Left E S (one c))
include sim hone

theorem primary_paired {ts : List Token} (h : Left ts) :
    Paired S (Parsed.Pair φ Left E) (primary one ts) (primary one (ts.map φ)) := by
  rw [primary, primary, look_bind, look_bind, kind_map sim]
  split
  · rename_i hk
    refine (take_paired sim h (by simp [Passing, hk])).bind ?_
    rintro ⟨paren, rest, _⟩ ⟨_, _, _⟩ ⟨-, hrest, rfl⟩
    refine (hone .group _ hrest).bind ?_
    rintro ⟨inner, rest, _⟩ ⟨_, _, _⟩ ⟨hinner, hrest, rfl⟩
    refine (expect_paired sim (by simp [Passing]) _ hrest).bind ?_
    rintro ⟨close, rest, _⟩ ⟨_, _, _⟩ ⟨-, hrest, rfl⟩
    exact .ok ⟨hinner, hrest, rfl⟩
  · rename_i hk
    exact choice_paired sim (hone .choice) h hk
  · rename_i hk
    refine (take_paired sim h (by simp [Passing, hk])).bind ?_
    rintro ⟨t, rest, _⟩ ⟨_, _, _⟩ ⟨⟨rfl, ht, -⟩, hrest, rfl⟩
    exact .ok ⟨sim.name t (ht.trans hk), hrest, rfl⟩
  · rename_i hk
    refine (take_paired sim h (by simp [Passing, hk])).bind ?_
    rintro ⟨t, rest, _⟩ ⟨_, _, _⟩ ⟨⟨rfl, ht, -⟩, hrest, rfl⟩
    exact .ok ⟨sim.string t (.inl (ht.trans hk)), hrest, rfl⟩
  · rename_i hk
    exact plainNumber_paired sim h (.inl hk)
  · rename_i hk
    exact plainNumber_paired sim h (.inr hk)
  · rename_i hk
    exact negativeNumber_paired sim h hk
  · rename_i hk
    refine (take_paired sim h (by simp [Passing, hk])).bind ?_
    rintro ⟨bracket, rest, _⟩ ⟨_, _, _⟩ ⟨⟨rfl, -, -⟩, hrest, rfl⟩
    refine (expressions_paired sim (hone .list) (by simp [Passing]) _ hrest).bind ?_
    rintro ⟨es, rest, _⟩ ⟨_, _, _⟩ ⟨hes, hrest, rfl⟩
    exact .ok ⟨sim.list bracket hes, hrest, rfl⟩
  · rename_i hk
    refine (take_paired sim h (by simp [Passing, hk])).bind ?_
    rintro ⟨brace, rest, _⟩ ⟨_, _, _⟩ ⟨⟨rfl, -, -⟩, hrest, rfl⟩
    refine (entries_paired sim (hone .dictionary) hrest).bind ?_
    rintro ⟨es, rest, _⟩ ⟨_, _, _⟩ ⟨hes, hrest, rfl⟩
    exact .ok ⟨sim.dictionary brace hes, hrest, rfl⟩
  · exact reject_paired sim _ _ _ h

theorem suffix?_paired {base base' : Expr} (hbase : E base base') {ts : List Token}
    (h : Left ts) :
    Paired S (Option.Rel (Parsed.Pair φ Left E)) (suffix? one base ts)
      (suffix? one base' (ts.map φ)) := by
  rw [suffix?, suffix?, look_bind, look_bind, kind_map sim]
  split
  · rename_i hk
    refine (take_paired sim h (by simp [Passing, hk])).bind ?_
    rintro ⟨dot, rest, _⟩ ⟨_, _, _⟩ ⟨⟨rfl, -, -⟩, hrest, rfl⟩
    refine (expect_paired sim (by simp [Passing]) _ hrest).bind ?_
    rintro ⟨name, rest, _⟩ ⟨_, _, _⟩ ⟨⟨rfl, hname, -⟩, hrest, rfl⟩
    exact .ok (.some ⟨sim.member dot hname hbase, hrest, rfl⟩)
  · rename_i hk
    refine (take_paired sim h (by simp [Passing, hk])).bind ?_
    rintro ⟨bracket, rest, _⟩ ⟨_, _, _⟩ ⟨⟨rfl, -, -⟩, hrest, rfl⟩
    refine (hone .index _ hrest).bind ?_
    rintro ⟨key, rest, _⟩ ⟨_, _, _⟩ ⟨hkey, hrest, rfl⟩
    refine (expect_paired sim (by simp [Passing]) _ hrest).bind ?_
    rintro ⟨close, rest, _⟩ ⟨_, _, _⟩ ⟨-, hrest, rfl⟩
    exact .ok (.some ⟨sim.index bracket hbase hkey, hrest, rfl⟩)
  · rename_i hk
    refine (take_paired sim h (by simp [Passing, hk])).bind ?_
    rintro ⟨paren, rest, _⟩ ⟨_, _, _⟩ ⟨⟨rfl, -, -⟩, hrest, rfl⟩
    refine (expressions_paired sim (hone .call) (by simp [Passing]) _ hrest).bind ?_
    rintro ⟨es, rest, _⟩ ⟨_, _, _⟩ ⟨hes, hrest, rfl⟩
    exact .ok (.some ⟨sim.call paren hbase hes, hrest, rfl⟩)
  · exact .ok .none

theorem suffixes_paired {base base' : Expr} (hbase : E base base') {ts : List Token}
    (h : Left ts) :
    Paired S (LeftPair φ Left E) (suffixes one base ts) (suffixes one base' (ts.map φ)) := by
  rw [suffixes, suffixes]
  refine (suffix?_paired sim hone hbase h).bind fun found found' hfound => ?_
  cases hfound with
  | none => exact .ok ⟨hbase, h, rfl⟩
  | @some p q hpq =>
      obtain ⟨e, rest, _⟩ := p
      obtain ⟨e', _, _⟩ := q
      obtain ⟨he, hrest, rfl⟩ := hpq
      refine (suffixes_paired he hrest).bind ?_
      rintro ⟨⟨last, rest'⟩, _⟩ ⟨⟨_, _⟩, _⟩ ⟨hlast, hrest', rfl⟩
      exact .ok ⟨hlast, hrest', rfl⟩
termination_by ts.length

end

section

variable (sim : Similar φ Left E S)
include sim

theorem within_paired (between : Construct → Nat) (free : Nat) :
    PairedReader φ Left E S (within between free) := by
  induction free using Nat.strongRecOn with
  | ind free ih =>
      intro ts h
      cases free with
      | zero => exact giveUp_paired sim _ h
      | succ free =>
          have hparts : ∀ c, PairedReader φ Left E S (parts between free c) := fun c =>
            ih _ (Nat.lt_succ_of_le (Nat.sub_le _ _))
          rw [within_succ, within_succ, kind_map sim]
          split
          · rename_i hk
            exact function_paired sim (hparts .function) h hk
          · refine (primary_paired sim hparts h).bind ?_
            rintro ⟨base, rest, _⟩ ⟨base', _, _⟩ ⟨hbase, hrest, rfl⟩
            refine (suffixes_paired sim hparts hbase hrest).bind ?_
            rintro ⟨⟨e, rest'⟩, _⟩ ⟨⟨_, _⟩, _⟩ ⟨he, hrest', rfl⟩
            exact .ok ⟨he, hrest', rfl⟩

/-! ## Templates -/

/-- Both readings come to related children, each at an ending token. -/
theorem children_paired {one : ExprReader} (hone : PairedReader φ Left E S one)
    {ts : List Token} (h : Left ts) :
    Paired S (fun es es' => List.Forall₂ E es es' ∧
        ∃ last more, Left (last :: more) ∧ last.kind = .ending)
      (children one ts) (children one (ts.map φ)) := by
  rw [children, children, look_bind, look_bind, kind_map sim]
  split
  · rename_i hk
    cases ts with
    | nil => exact .both (sim.cutShort h (by simp))
    | cons t ts => exact .ok ⟨.nil, t, ts, h, hk⟩
  · rename_i hk
    refine (take_paired sim h (by simp [Passing, hk])).bind ?_
    rintro ⟨t, rest, _⟩ ⟨_, _, _⟩ ⟨⟨rfl, ht, -⟩, hrest, rfl⟩
    refine (children_paired hone hrest).bind fun es es' hes => ?_
    exact .ok ⟨.cons (sim.string t (.inr (ht.trans hk))) hes.1, hes.2⟩
  · refine (expect_paired sim (by simp [Passing]) _ h).bind ?_
    rintro ⟨opening, rest, _⟩ ⟨_, _, _⟩ ⟨-, hrest, rfl⟩
    refine (hone _ hrest).bind ?_
    rintro ⟨e, rest', _⟩ ⟨_, _, _⟩ ⟨he, hrest', rfl⟩
    refine (expect_paired sim (by simp [Passing]) _ hrest').bind ?_
    rintro ⟨closing, rest'', _⟩ ⟨_, _, _⟩ ⟨-, hrest'', rfl⟩
    refine (children_paired hone hrest'').bind fun es es' hes => ?_
    exact .ok ⟨.cons he hes.1, hes.2⟩
termination_by ts.length

end

end Reader

end Inlay
