import Mathlib.Data.List.Chain
import Inlay.Proofs.Grammar

/-!
# Tokens side by side

What the grammar says of neighbouring tokens, whatever phrase they are in: no name stands
right behind a number (`Derives.meets`), and every minus touches the token behind it
(`Derives.minusesTouch`). Each is a property of tokens that phrases are put
together with (`Composes`), so one induction over derivations serves both.
-/

namespace Inlay

namespace Grammar

/-! ## What phrases are put together of -/

/-- The phrases that stand behind others. -/
def Phrase.Continues : Phrase → Prop
  | .suffixes _ _ | .moreExpressions _ | .moreEntries _ => True
  | _ => False

theorem Derives.continues {n : Nat} {p : Phrase} {ts : List Token} (h : Nests n p ts)
    (hp : p.Continues) : ∀ u ∈ ts.head?, u.kind ≠ .identifier := by
  cases h with
  | noSuffix | noMoreExpressions | noMoreEntries => simp
  | member hk | index hk | call hk | moreExpressions hk | moreEntries hk => simp [hk]
  | _ => exact hp.elim

/-- A kind of token that may stand in front of any others. -/
def Apart : TokenKind → Prop
  | .integer | .float | .minus => False
  | _ => True

/-- A property that tokens keep when they are put together as the rules do it. -/
structure Composes (P : List Token → Prop) : Prop where
  nil : P []
  number {t : Token} (hk : t.kind = .integer ∨ t.kind = .float) : P [t]
  negative {minus t : Token} (hk : minus.kind = .minus)
    (ht : t.kind = .integer ∨ t.kind = .float) (hat : t.location = minus.location.next) :
    P [minus, t]
  cons {t : Token} {ts : List Token} (hk : Apart t.kind) (h : P ts) : P (t :: ts)
  append {ts us : List Token} (h : P ts) (h' : P us) (hu : ∀ u ∈ us.head?, u.kind ≠ .identifier) :
    P (ts ++ us)

section

variable {P : List Token → Prop} (hP : Composes P)
include hP

theorem Names.of_composes {ps : List String} {ts : List Token} (h : Names ps ts) : P ts := by
  induction h with
  | one hk => exact hP.cons (by simp [hk, Apart]) hP.nil
  | more hk hc hs ih => exact hP.cons (by simp [hk, Apart]) (hP.cons (by simp [hc, Apart]) ih)

theorem Parameters.of_composes {ps : List String} {ts : List Token} (h : Parameters ps ts) :
    P ts := by
  cases h with
  | none => exact hP.nil
  | some hs => exact hs.of_composes hP

theorem Derives.of_composes {n : Nat} {p : Phrase} {ts : List Token} (h : Nests n p ts) :
    P ts := by
  -- a token in front of others, between others and behind others
  have hcons : ∀ {t : Token} {k : TokenKind} {ts : List Token}, t.kind = k → Apart k →
      P ts → P (t :: ts) := fun hk hp h => hP.cons (hk ▸ hp) h
  have happend : ∀ {t : Token} {k : TokenKind} {ts us : List Token}, t.kind = k → Apart k →
      k ≠ .identifier → P ts → P us → P (ts ++ t :: us) :=
    fun hk hp hne h h' => hP.append h (hcons hk hp h') fun u hu => Option.some.inj hu ▸ hk ▸ hne
  have hclose : ∀ {t : Token} {k : TokenKind} {ts : List Token}, t.kind = k → Apart k →
      k ≠ .identifier → P ts → P (ts ++ [t]) :=
    fun hk hp hne h => happend hk hp hne h hP.nil
  induction h with
  | function hk ho hp hd hc ha hb ih =>
      exact hcons hk trivial (hcons ho trivial (happend hc trivial nofun (hp.of_composes hP)
        (hcons ha trivial ih)))
  | chain hb hs ihb ihs => exact hP.append ihb ihs (hs.continues trivial)
  | group ho he hc ih | list ho he hc ih | dictionary ho he hc ih =>
      exact hcons ho trivial (hclose hc trivial nofun ih)
  | choice hk ho hc h1 ha h2 hb hr ihc iha ihb =>
      exact hcons hk trivial (hcons ho trivial (happend h1 trivial nofun ihc
        (happend h2 trivial nofun iha (hclose hr trivial nofun ihb))))
  | name hk | string hk => exact hcons hk trivial hP.nil
  | number hl => exact hP.number hl.kind_eq
  | negative hk hat hl => exact hP.negative hk hl.kind_eq hat
  | noSuffix | noExpressions | noMoreExpressions | noEntries | noMoreEntries | noChildren =>
      exact hP.nil
  | member hd hk hs ih => exact hcons hd trivial (hcons hk trivial ih)
  | index ho hi hc hs ihi ihs | call ho hi hc hs ihi ihs =>
      exact hcons ho trivial (happend hc trivial nofun ihi ihs)
  | someExpressions he hs ihe ihs => exact hP.append ihe ihs (hs.continues trivial)
  | moreExpressions hc he hs ihe ihs =>
      exact hcons hc trivial (hP.append ihe ihs (hs.continues trivial))
  | someEntries hk hc hv hs ihk ihv ihs =>
      exact happend hc trivial nofun ihk (hP.append ihv ihs (hs.continues trivial))
  | moreEntries h1 hk hc hv hs ihk ihv ihs =>
      exact hcons h1 trivial
        (happend hc trivial nofun ihk (hP.append ihv ihs (hs.continues trivial)))
  | textChild hk hs ih => exact hcons hk trivial ih
  | expressionChild ho he hc hs ihe ih =>
      exact hcons ho trivial (happend hc trivial nofun ihe ih)

end

/-! ## Numbers and names -/

/-- No name stands right behind a number. -/
def Meets (t u : Token) : Prop := t.kind = .integer ∨ t.kind = .float → u.kind ≠ .identifier

theorem composes_meets : Composes (·.IsChain Meets) where
  nil := .nil
  number _ := .singleton _
  negative hk _ _ := List.isChain_pair.mpr fun hnumber => by simp [hk] at hnumber
  cons hk h := List.isChain_cons.mpr ⟨fun _ _ hnumber => by
    rcases hnumber with hnumber | hnumber <;> exact (hnumber ▸ hk).elim, h⟩
  append h h' hu := List.isChain_append.mpr ⟨h, h', fun _ _ u hmem _ => hu u hmem⟩

theorem Derives.meets {n : Nat} {p : Phrase} {ts : List Token} (h : Nests n p ts) :
    ts.IsChain Meets :=
  h.of_composes composes_meets

/-! ## Minuses -/

def MinusesTouch : List Token → Prop
  | [] => True
  | t :: ts => (t.kind = .minus → ∃ u ∈ ts.head?, u.location = t.location.next) ∧ MinusesTouch ts

theorem MinusesTouch.cons {t : Token} {ts : List Token} (hk : t.kind ≠ .minus)
    (h : MinusesTouch ts) : MinusesTouch (t :: ts) :=
  ⟨fun hminus => absurd hminus hk, h⟩

theorem MinusesTouch.append {ts us : List Token} (h : MinusesTouch ts) (h' : MinusesTouch us) :
    MinusesTouch (ts ++ us) := by
  induction ts with
  | nil => exact h'
  | cons t ts ih =>
      refine ⟨fun hminus => ?_, ih h.2⟩
      obtain ⟨u, hu, hat⟩ := h.1 hminus
      exact ⟨u, List.mem_head?_append_of_mem_head? hu, hat⟩

theorem MinusesTouch.next {before after : List Token} {minus t : Token}
    (h : MinusesTouch (before ++ minus :: t :: after)) (hk : minus.kind = .minus) :
    t.location = minus.location.next := by
  induction before with
  | nil =>
      obtain ⟨u, hu, hat⟩ := h.1 hk
      exact Option.some.inj hu ▸ hat
  | cons _ before ih => exact ih h.2

theorem composes_minusesTouch : Composes MinusesTouch where
  nil := trivial
  number hk := .cons (by rcases hk with hk | hk <;> simp [hk]) trivial
  negative _ ht hat :=
    ⟨fun _ => ⟨_, rfl, hat⟩, .cons (by rcases ht with ht | ht <;> simp [ht]) trivial⟩
  cons hk h := .cons (fun hminus => (hminus ▸ hk).elim) h
  append h h' _ := h.append h'

/-- In what is derived, each minus belongs to a number that touches it. -/
theorem Derives.minusesTouch {n : Nat} {p : Phrase} {ts : List Token} (h : Nests n p ts) :
    MinusesTouch ts :=
  h.of_composes composes_minusesTouch

end Grammar

end Inlay
