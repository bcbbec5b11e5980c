import Inlay.Proofs.IntegerTokens
import Inlay.Proofs.ReaderPairs
import Inlay.Proofs.ReaderSound

/-!
# Where reading stops

Two things make a reader stop. A token does not fit where it stands, or an
integer is not accepted as a literal. Only the second depends on the digits of
integers: apart from it the reader takes the same way through the tokens when
every integer is a zero. So a reading is paired with the reading of the zeroed
tokens (`similar_zeroed`): both come to an end, or both stop for a reason that
the tokens account for (`Blames`), or the reading alone stops, at the first
integer that is not accepted (`Refuses`).
-/

namespace Inlay

namespace Reader

open Grammar

/-! ## Reasons to stop -/

def integerFailure (negative : Bool) (t : Token) (l : Location) : ParseFailure :=
  if Numeral.digitLimit < t.text.toList.length then .numeralTooLong t.text.toList.length
  else .rejected (.integerOutOfRange (signed negative t.text)) l

/-- The reasons to stop that do not lie in the digits of an integer, each with
the token that it is about. -/
inductive Blames (all : List Token) : Stop → Prop
  | cutShort (h : ∀ t ∈ all, t.kind ≠ .ending) : Blames all .cutShort
  | tooDeep {t : Token} (ht : t ∈ all) : Blames all (.failure (.tooDeep t.location))
  | expected (what : Expectation) {t : Token} (ht : t ∈ all) :
      Blames all (.failure (.rejected (.expected what t.description) t.location))
  | duplicate {t : Token} (ht : t ∈ all) (hk : t.kind = .identifier) :
      Blames all (.failure (.rejected (.duplicateParameter t.text) t.location))
  | float {before : List Token} {negative : Bool} {t : Token} {l : Location}
      (h : NumberIn all before negative t l) (hk : t.kind = .float) :
      Blames all (.failure (.rejected (.floatOutOfRange (signed negative t.text)) l))

/-- The integer that is not accepted and all before which are. -/
inductive Refuses (all : List Token) : Stop → Prop
  | integer {before : List Token} {negative : Bool} {t : Token} {l : Location}
      (h : NumberIn all before negative t l) (hk : t.kind = .integer)
      (hfit : IntegersFit before) (hno : ¬ Accepted negative t) :
      Refuses all (.failure (integerFailure negative t l))

/-- How a reading may stop beside the reading of the zeroed tokens. -/
def zeroedStops (all : List Token) : Stops where
  both stop _ := Blames all stop
  alone := Refuses all

/-! ## Tokens that have been passed -/

/-- Tokens that have been passed: every integer among them is accepted, none of
them ends the text, and the last is no minus, which its number follows. -/
structure Passed (used : List Token) : Prop where
  fit : IntegersFit used
  noEnd : ∀ t ∈ used, t.kind ≠ .ending
  noMinus : ∀ t ∈ used.getLast?, t.kind ≠ .minus

theorem Passed.append {ts us : List Token} (h : Passed ts) (h' : Passed us) :
    Passed (ts ++ us) where
  fit := h.fit.append h.noMinus h'.fit
  noEnd := List.forall_mem_append.mpr ⟨h.noEnd, h'.noEnd⟩
  noMinus := by
    intro t ht
    rw [List.getLast?_append, Option.mem_def, Option.or_eq_some_iff] at ht
    rcases ht with ht | ⟨-, ht⟩
    · exact h'.noMinus t ht
    · exact h.noMinus t ht

theorem Passed.one {t : Token} (hk : Passing t.kind) : Passed [t] where
  fit := .other hk.1
  noEnd := List.forall_mem_singleton.mpr hk.2.2
  noMinus := by simpa using hk.2.1

theorem Passed.number {t : Token} (hk : t.kind = .integer ∨ t.kind = .float)
    (h : t.kind = .integer → Accepted false t) : Passed [t] where
  fit := .singleton h
  noEnd := by rcases hk with hk | hk <;> simp [hk]
  noMinus := by rcases hk with hk | hk <;> simp [hk]

theorem Passed.negative {minus t : Token} (hm : minus.kind = .minus)
    (hk : t.kind = .integer ∨ t.kind = .float) (h : t.kind = .integer → Accepted true t) :
    Passed [minus, t] where
  fit := .negative hm h
  noEnd := by rcases hk with hk | hk <;> simp [hm, hk]
  noMinus := by rcases hk with hk | hk <;> simp [hk]

/-- The tokens that are left after those that have been passed. -/
def Reached (all ts : List Token) : Prop := ∃ used, all = used ++ ts ∧ Passed used

theorem Reached.start (all : List Token) : Reached all all :=
  ⟨[], rfl, .nil, by simp, by simp⟩

theorem Reached.mem {all ts : List Token} {t : Token} (h : Reached all ts) (ht : t ∈ ts) :
    t ∈ all := by
  obtain ⟨used, rfl, -⟩ := h
  exact List.mem_append_right used ht

theorem Reached.move {all ts : List Token} (us : List Token) (h : Reached all (us ++ ts))
    (hu : Passed us) : Reached all ts := by
  obtain ⟨used, rfl, hused⟩ := h
  exact ⟨used ++ us, (List.append_assoc ..).symm, hused.append hu⟩

/-- Passing the last token is what cuts the tokens short; the ending token is
never passed. -/
theorem Reached.cutShort {all ts : List Token} (h : Reached all ts)
    (hend : ∀ t ∈ ts, t.kind ≠ .ending) : Blames all .cutShort := by
  obtain ⟨used, rfl, hused⟩ := h
  exact .cutShort (List.forall_mem_append.mpr ⟨hused.noEnd, hend⟩)

/-! ## Numbers -/

/-- What an integer token makes: a literal, or the failure to be one. -/
theorem number_integer (negative : Bool) {t : Token} (l : Location) (hk : t.kind = .integer)
    (hd : Lexer.IsDigits t.text.toList) :
    (Accepted negative t ∧
      number negative t l = .ok (.integer l (signedValue negative t.text))) ∨
    ¬ Accepted negative t ∧
      number negative t l = .error (.failure (integerFailure negative t l)) := by
  have hsplit : Numeral.splitSign (signed negative t.text).toList = (negative, t.text.toList) :=
    splitSign_signed hd
  have hread : Numeral.readInteger (if negative then "-" ++ t.text else t.text).toList = _ :=
    Numeral.readInteger_of_split hd hsplit
  unfold number
  dsimp only
  rw [hk, hread, integerFailure]
  by_cases hlong : Numeral.digitLimit < t.text.toList.length
  · rw [if_pos hlong, if_pos hlong]
    exact .inr ⟨fun h => Nat.not_le.mpr hlong h.1, rfl⟩
  · rw [if_neg hlong, if_neg hlong]
    by_cases hfit : FitsInt64 (signedValue negative t.text)
    · exact .inl ⟨⟨Nat.not_lt.mp hlong, hfit⟩, if_pos hfit⟩
    · exact .inr ⟨fun h => hfit h.2, if_neg hfit⟩

/-- A zero is a literal, with or without a minus. -/
theorem number_zero (negative : Bool) {t : Token} (hk : t.kind = .integer) (l : Location) :
    ∃ e, number negative t.zeroed l = .ok e := by
  have htext : t.zeroed.text = "0" := congrArg Token.text (Token.zeroed_integer hk)
  have hd : Lexer.IsDigits t.zeroed.text.toList := by
    rw [htext]
    refine ⟨List.cons_ne_nil _ _, fun c hc => ?_⟩
    rw [List.mem_singleton.mp hc]
    rfl
  have hok : Accepted negative t.zeroed := by
    rw [Accepted, htext]
    cases negative <;> exact ⟨by decide, by unfold FitsInt64; decide⟩
  rcases number_integer negative l (t.zeroed_kind.trans hk) hd with ⟨-, h⟩ | ⟨hno, -⟩
  · exact ⟨_, h⟩
  · exact absurd hok hno

theorem number_float (negative : Bool) {t : Token} (l : Location) (hk : t.kind = .float) :
    (∃ e, number negative t l = .ok e) ∨
      number negative t l =
        .error (.failure (.rejected (.floatOutOfRange (signed negative t.text)) l)) := by
  unfold number
  rw [hk]
  dsimp only
  split
  · split
    · exact .inl ⟨_, rfl⟩
    · exact .inr rfl
  · exact .inr rfl

section

variable {all : List Token}

theorem number_zeroed (hall : Formed all) {before : List Token} {negative : Bool} {t : Token}
    {l : Location} (hin : NumberIn all before negative t l) (hfit : IntegersFit before)
    (hk : t.kind = .integer ∨ t.kind = .float) :
    Paired (zeroedStops all) (fun _ _ => t.kind = .integer → Accepted negative t)
      (number negative t l) (number negative t.zeroed l) := by
  rcases hk with hk | hk
  · obtain ⟨zero, hzero⟩ := number_zero negative hk l
    rcases number_integer negative l hk (hall t hin.mem hk) with
      ⟨hok, heq⟩ | ⟨hno, heq⟩
    · rw [heq, hzero]
      exact .ok fun _ => hok
    · rw [heq]
      exact .alone (Refuses.integer hin hk hfit hno) _
  · have hne : t.kind ≠ .integer := by simp [hk]
    rw [Token.zeroed_eq hne]
    rcases number_float negative l hk with ⟨e, heq⟩ | heq
    · rw [heq]
      exact .ok fun hint => absurd hint hne
    · rw [heq]
      exact .both (Blames.float hin hk)

/-! ## Beside the zeroed tokens -/

/-- Zeroed tokens are read in step with the tokens, whatever the trees are, up to
an integer that is not accepted. -/
theorem similar_zeroed (hall : Formed all) :
    Similar Token.zeroed (Reached all) (fun _ _ => True) (zeroedStops all) where
  kind := Token.zeroed_kind
  text hk := by rw [Token.zeroed_eq (by simp [hk])]
  touches _ _ _ := by rw [Token.zeroed_location, Token.zeroed_location]
  move h hk := h.move [_] (.one hk)
  cutShort := Reached.cutShort
  tooDeep h ht := by
    rw [Token.zeroed_location]
    exact Blames.tooDeep (h.mem ht)
  expected what _ _ h ht := Blames.expected what (h.mem ht)
  duplicate h ht hk := Blames.duplicate (h.mem ht) hk
  number := by
    intro t ts h hk
    obtain ⟨used, hused, hpassed⟩ := id h
    rw [t.zeroed_location]
    refine (number_zeroed hall (.plain hused hpassed.noMinus) hpassed.fit hk).imp ?_
    exact fun e e' hok => ⟨trivial, h.move [t] (.number hk hok)⟩
  negative := by
    intro minus t ts h hm hk hat
    obtain ⟨used, hused, hpassed⟩ := id h
    rw [minus.zeroed_location]
    refine (number_zeroed hall (.negative hused hm hat) hpassed.fit hk).imp ?_
    exact fun e e' hok => ⟨trivial, h.move [minus, t] (.negative hm hk hok)⟩
  string _ _ := trivial
  name _ _ := trivial
  member _ _ _ _ _ _ := trivial
  index _ _ _ _ _ _ _ := trivial
  call _ _ _ _ _ _ _ := trivial
  choice _ _ _ _ _ _ _ _ _ _ := trivial
  list _ _ _ _ := trivial
  dictionary _ _ _ _ := trivial
  function _ _ _ _ _ := trivial

end

end Reader

end Inlay
