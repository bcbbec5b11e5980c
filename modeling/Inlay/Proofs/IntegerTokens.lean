import Inlay.Proofs.Grammar
import Inlay.Number.Reading

/-!
# Integers among tokens

Which integer tokens become literals depends on their digits and on the minus
before them. `NumberIn` finds the numbers among tokens, each with its sign and
its place; `IntegersFit` says that all of them are accepted. Since a minus and
its number stay together, this can be told part by part. A zero is accepted
everywhere, so tokens with zeros for their integers (`Token.zeroed`) show what
is left of a text when its integers do not matter.
-/

namespace Inlay

namespace Grammar

/-! ## Integers among tokens -/

/-- The integer tokens that are read as a literal: few enough digits to be read
at all, and a value of 64 bits. -/
def Accepted (negative : Bool) (t : Token) : Prop :=
  t.text.toList.length ≤ Numeral.digitLimit ∧ FitsInt64 (signedValue negative t.text)

/-- A number among tokens, with what stands before it: whether a minus is the
last of that, which the number then touches, and the place of its literal. -/
inductive NumberIn (ts : List Token) : List Token → Bool → Token → Location → Prop
  | plain {before after : List Token} {t : Token} (h : ts = before ++ t :: after)
      (hm : ∀ u ∈ before.getLast?, u.kind ≠ .minus) : NumberIn ts before false t t.location
  | negative {before after : List Token} {minus t : Token}
      (h : ts = before ++ minus :: t :: after) (hk : minus.kind = .minus)
      (hat : t.location = minus.location.next) : NumberIn ts before true t minus.location

/-- Every integer among the tokens is accepted. -/
def IntegersFit (ts : List Token) : Prop :=
  ∀ before negative t l, NumberIn ts before negative t l → t.kind = .integer →
    Accepted negative t

theorem NumberIn.mem {ts before : List Token} {negative : Bool} {t : Token} {l : Location}
    (h : NumberIn ts before negative t l) : t ∈ ts := by
  cases h with
  | plain h => simp [h]
  | negative h => simp [h]

/-- The place of a literal is that of a token: of the number or of its minus. -/
theorem NumberIn.place {ts before : List Token} {negative : Bool} {t : Token} {l : Location}
    (h : NumberIn ts before negative t l) : ∃ u ∈ ts, u.location = l := by
  cases h with
  | plain h => exact ⟨_, by simp [h], rfl⟩
  | negative h => exact ⟨_, by simp [h], rfl⟩

/-- A number in tokens put together is in one of the two, since no minus stands
at the joint. -/
theorem NumberIn.of_append {ts us before : List Token} {negative : Bool} {t : Token}
    {l : Location} (h : NumberIn (ts ++ us) before negative t l)
    (hm : ∀ u ∈ ts.getLast?, u.kind ≠ .minus) :
    NumberIn ts before negative t l ∨ ∃ before', NumberIn us before' negative t l := by
  cases h with
  | plain h hb =>
      obtain ⟨as, rfl, rfl⟩ | ⟨bs, rfl, heq⟩ := List.append_eq_append_iff.mp h
      · refine .inr ⟨as, .plain rfl fun u hu => hb u ?_⟩
        rw [List.getLast?_append, hu]
        rfl
      · cases bs with
        | nil => exact .inr ⟨[], .plain heq.symm (by simp)⟩
        | cons c bs =>
            obtain ⟨rfl, -⟩ := List.cons.inj heq
            exact .inl (.plain rfl hb)
  | negative h hk hat =>
      obtain ⟨as, rfl, rfl⟩ | ⟨bs, rfl, heq⟩ := List.append_eq_append_iff.mp h
      · exact .inr ⟨as, .negative rfl hk hat⟩
      · match bs with
        | [] => exact .inr ⟨[], .negative heq.symm hk hat⟩
        | [c] =>
            obtain ⟨rfl, -⟩ := List.cons.inj heq
            exact absurd hk (hm _ (by simp))
        | c :: d :: bs =>
            obtain ⟨rfl, htail⟩ := List.cons.inj heq
            obtain ⟨rfl, -⟩ := List.cons.inj htail
            exact .inl (.negative rfl hk hat)

theorem NumberIn.singleton {u t : Token} {before : List Token} {negative : Bool} {l : Location}
    (h : NumberIn [u] before negative t l) : negative = false ∧ t = u := by
  cases h with
  | plain h =>
      obtain ⟨rfl, heq⟩ | ⟨rfl, heq⟩ := List.singleton_eq_append_iff.mp h
      · exact ⟨rfl, (List.cons.inj heq).1⟩
      · cases heq
  | negative h =>
      obtain ⟨rfl, heq⟩ | ⟨rfl, heq⟩ := List.singleton_eq_append_iff.mp h
      · cases heq
      · cases heq

theorem IntegersFit.nil : IntegersFit [] := fun _ _ _ _ h => nomatch h.mem

theorem IntegersFit.append {ts us : List Token} (h : IntegersFit ts)
    (hm : ∀ u ∈ ts.getLast?, u.kind ≠ .minus) (h' : IntegersFit us) :
    IntegersFit (ts ++ us) := by
  intro before negative t l hin hk
  rcases hin.of_append hm with hin | ⟨before', hin⟩
  · exact h _ _ _ _ hin hk
  · exact h' _ _ _ _ hin hk

theorem IntegersFit.singleton {t : Token} (h : t.kind = .integer → Accepted false t) :
    IntegersFit [t] := by
  intro before negative u l hin hk
  obtain ⟨rfl, rfl⟩ := hin.singleton
  exact h hk

theorem IntegersFit.other {t : Token} (hk : t.kind ≠ .integer) : IntegersFit [t] :=
  .singleton fun h => absurd h hk

theorem IntegersFit.negative {minus t : Token} (hk : minus.kind = .minus)
    (h : t.kind = .integer → Accepted true t) : IntegersFit [minus, t] := by
  intro before negative u l hin hu
  cases hin with
  | plain heq hm =>
      match before, heq with
      | [], heq =>
          obtain ⟨rfl, -⟩ := List.cons.inj heq
          rw [hk] at hu
          cases hu
      | [c], heq =>
          obtain ⟨rfl, -⟩ := List.cons.inj heq
          exact absurd hk (hm _ (by simp))
      | c :: d :: before, heq => simp at heq
  | negative heq =>
      match before, heq with
      | [], heq =>
          obtain ⟨-, htail⟩ := List.cons.inj heq
          obtain ⟨rfl, -⟩ := List.cons.inj htail
          exact h hu
      | [c], heq => simp at heq
      | c :: d :: before, heq => simp at heq

end Grammar

/-- A token with a zero in the place of an integer. -/
def Token.zeroed (t : Token) : Token :=
  if t.kind = .integer then { t with text := "0" } else t

theorem Token.zeroed_eq {t : Token} (h : t.kind ≠ .integer) : t.zeroed = t := if_neg h

theorem Token.zeroed_integer {t : Token} (h : t.kind = .integer) :
    t.zeroed = { t with text := "0" } := if_pos h

theorem Token.zeroed_kind (t : Token) : t.zeroed.kind = t.kind := by
  unfold zeroed
  split <;> rfl

theorem Token.zeroed_location (t : Token) : t.zeroed.location = t.location := by
  unfold zeroed
  split <;> rfl

end Inlay
