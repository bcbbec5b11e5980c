import Inlay.Proofs.Places
import Inlay.Proofs.Relocation

/-!
# Places and offsets

The lexer carries a line and a column along and moves them on by what it takes.
Here they are tied to the text: the place that it has reached is the one that
the line feeds before that point give (`Location.ofOffset`), since moving on over
a text and over its continuation is moving on over both (`advance_append`). So
every token stands at an offset where its source begins (`Token.StandsAt`), the
offsets increase, and the ending token's is the length of the text.
-/

namespace Inlay

/-! ## The place of an offset -/

namespace Location

/-- The place of the character at an offset of a text: a line for each line feed
before it, and a column for each character after the last of these. -/
def ofOffset (cs : List Char) (o : Nat) : Location :=
  ⟨1 + (cs.take o).count '\n', 1 + (lastLine (cs.take o)).length⟩

theorem advance_take (cs : List Char) (o : Nat) : start.advance (cs.take o) = ofOffset cs o := by
  rw [← behind_start, ofOffset, behind, start, if_pos rfl]

theorem ofOffset_length (before rest : List Char) :
    ofOffset (before ++ rest) before.length = start.advance before := by
  rw [← advance_take, List.take_left]

end Location

namespace Lexer

/-- An unterminated string starts at the quote that was read; any other fault is
about the character itself. -/
theorem lexeme_error {c : Char} {rest : List Char} {cause : LexicalFault}
    (h : lexeme c rest = .error cause) :
    (cause = .unterminated ∧ c = '\'') ∨ cause = .unrecognized c := by
  unfold lexeme at h
  split at h
  · cases h
  split at h
  · cases h
  split at h
  · cases h
  split at h
  · rename_i hc
    split at h
    · cases h
    · exact .inl ⟨(Except.error.inj h).symm, hc⟩
  split at h
  · split at h <;> cases h
  split at h
  · cases h
  · exact .inr (Except.error.inj h).symm

end Lexer

/-! ## Tokens at offsets -/

/-- A token stands at an offset of a text: its place is that of the offset, and
there its source begins, which is the spelling of its kind if that has one. -/
structure Token.StandsAt (text : List Char) (t : Token) (o : Nat) : Prop where
  place : t.location = .ofOffset text o
  source : ∃ before rest, text = before ++ t.source ++ rest ∧ before.length = o
  spelling : ∀ w, t.kind.spelling? = some w → t.source = w

/-- A character of the text belongs to one of the tokens. -/
def TokenCovers (ts : List Token) (os : List Nat) (i : Nat) : Prop :=
  ∃ p ∈ ts.zip os, p.2 ≤ i ∧ i < p.2 + p.1.source.length

/-- A fault is about the first character behind the tokens that is in no gap:
one that starts no token, or the quote that opens a string which is not closed. -/
structure FaultAt (text : List Char) (start : Nat) (ts : List Token) (os : List Nat)
    (cause : LexicalFault) (o : Nat) : Prop where
  later : start ≤ o
  behind : ∀ p ∈ os, p < o
  first : ∀ i, start ≤ i → i < o →
    TokenCovers ts os i ∨ ∃ c, text[i]? = some c ∧ Lexer.isGap c = true
  character : ∃ c, text[o]? = some c ∧
    ((cause = .unterminated ∧ c = '\'') ∨ cause = .unrecognized c)

/-- The tokens of a reading that starts at an offset of a text stand at
increasing offsets from there on, the ending token at the end of the text. -/
structure Lexed.StandsAt (text : List Char) (start : Nat) (r : Lexed) (os : List Nat) :
    Prop where
  tokens : List.Forall₂ (Token.StandsAt text) r.tokens os
  increasing : os.Pairwise (· < ·)
  later : ∀ o ∈ os, start ≤ o
  ended : r.fault = none → ∃ t, r.tokens.getLast? = some t ∧ t.kind = .ending ∧
    os.getLast? = some text.length
  stopped : ∀ cause l, r.fault = some (cause, l) →
    ∃ o, l = .ofOffset text o ∧ FaultAt text start r.tokens os cause o

theorem TokenCovers.cons {ts : List Token} {os : List Nat} {i : Nat} (h : TokenCovers ts os i)
    (t : Token) (o : Nat) : TokenCovers (t :: ts) (o :: os) i := by
  obtain ⟨p, hp, hi⟩ := h
  exact ⟨p, List.mem_cons_of_mem _ hp, hi⟩

theorem FaultAt.cons {text : List Char} {start : Nat} {ts : List Token} {os : List Nat}
    {cause : LexicalFault} {o : Nat} {t : Token} (hne : t.source ≠ [])
    (h : FaultAt text (start + t.source.length) ts os cause o) :
    FaultAt text start (t :: ts) (start :: os) cause o := by
  have hlt : start < o :=
    Nat.lt_of_lt_of_le (Nat.lt_add_of_pos_right (List.length_pos_iff.mpr hne)) h.later
  refine ⟨hlt.le, List.forall_mem_cons.mpr ⟨hlt, h.behind⟩, fun i hi ho => ?_, h.character⟩
  by_cases hin : i < start + t.source.length
  · exact .inl ⟨(t, start), List.mem_cons_self .., hi, hin⟩
  · exact (h.first i (Nat.not_lt.mp hin) ho).imp_left fun hc => hc.cons t start

theorem FaultAt.gap {text : List Char} {start : Nat} {ts : List Token} {os : List Nat}
    {cause : LexicalFault} {o : Nat} {c : Char} (hc : text[start]? = some c)
    (hgap : Lexer.isGap c = true) (h : FaultAt text (start + 1) ts os cause o) :
    FaultAt text start ts os cause o := by
  refine ⟨(Nat.le_succ start).trans h.later, h.behind, fun i hi ho => ?_, h.character⟩
  rcases Nat.eq_or_lt_of_le hi with rfl | hlt
  · exact .inr ⟨c, hc, hgap⟩
  · exact h.first i hlt ho

theorem Lexed.StandsAt.cons {text before source rest : List Char} {r : Lexed} {os : List Nat}
    {t : Token} (htext : text = before ++ source ++ rest)
    (hplace : t.location = Location.start.advance before) (hsource : t.source = source)
    (hspelling : ∀ w, t.kind.spelling? = some w → source = w) (hne : source ≠ [])
    (h : r.StandsAt text (before ++ source).length os) :
    (Lexer.Lexed.cons t r).StandsAt text before.length (before.length :: os) := by
  subst hsource
  rw [List.length_append] at h
  have hlater : ∀ o ∈ os, before.length < o := fun o ho =>
    Nat.lt_of_lt_of_le (Nat.lt_add_of_pos_right (List.length_pos_iff.mpr hne)) (h.later o ho)
  have ht : t.StandsAt text before.length := by
    refine ⟨?_, ⟨before, rest, htext, rfl⟩, hspelling⟩
    rw [hplace, htext, List.append_assoc, Location.ofOffset_length]
  refine ⟨.cons ht h.tokens, List.pairwise_cons.mpr ⟨hlater, h.increasing⟩,
    List.forall_mem_cons.mpr ⟨Nat.le_refl _, fun o ho => (hlater o ho).le⟩, fun hnone => ?_,
    fun cause l hl => ?_⟩
  · obtain ⟨last, hlast, hk, hos⟩ := h.ended hnone
    refine ⟨last, ?_, hk, ?_⟩
    · rw [Lexer.Lexed.cons, List.getLast?_cons, hlast]
      rfl
    · rw [List.getLast?_cons, hos]
      rfl
  · obtain ⟨o, hat, hfault⟩ := h.stopped cause l hl
    exact ⟨o, hat, hfault.cons hne⟩

theorem Lexed.StandsAt.gap {text : List Char} {start : Nat} {r : Lexed} {os : List Nat}
    {c : Char} (hc : text[start]? = some c) (hgap : Lexer.isGap c = true)
    (h : r.StandsAt text (start + 1) os) : r.StandsAt text start os where
  tokens := h.tokens
  increasing := h.increasing
  later o ho := (Nat.le_succ start).trans (h.later o ho)
  ended := h.ended
  stopped cause l hl := by
    obtain ⟨o, hat, hfault⟩ := h.stopped cause l hl
    exact ⟨o, hat, hfault.gap hc hgap⟩

namespace Lexer

/-- A reading of the rest of a text puts its tokens where they stand in the text. -/
theorem run_standsAt {mode : Mode} {place : Location} {cs : List Char} {r : Lexed}
    (h : Run mode place cs r) {text : List Char} (before : List Char) (htext : text = before ++ cs)
    (hplace : place = Location.start.advance before) :
    ∃ os, r.StandsAt text before.length os := by
  induction h generalizing before with
  | done mode place =>
      subst htext hplace
      refine ⟨[before.length], .cons ⟨?_, ⟨before, [], by simp [Token.source], rfl⟩, ?_⟩ .nil,
        by simp, by simp, by simp, by simp⟩
      · rw [Location.ofOffset_length]
      · intro w hw
        exact Option.some.inj hw
  | opening hr ih =>
      obtain ⟨os, hos⟩ := ih (before ++ openingMark) (by simp [htext])
        (by rw [hplace, Location.advance_append])
      exact ⟨_, .cons (by rw [htext, List.append_assoc]) hplace String.toList_ofList
        (fun w hw => Option.some.inj hw) (by simp [openingMark]) hos⟩
  | @text _ plain _ _ hne hmark hstop hr ih =>
      obtain ⟨os, hos⟩ := ih (before ++ plain) (by simp [htext])
        (by rw [hplace, Location.advance_append])
      exact ⟨_, .cons (by rw [htext, List.append_assoc]) hplace String.toList_ofList
        (by simp [TokenKind.spelling?]) hne hos⟩
  | @gap _ c _ _ hc hr ih =>
      obtain ⟨os, hos⟩ := ih (before ++ [c]) (by simp [htext])
        (by rw [hplace, Location.advance_append]; rfl)
      rw [List.length_append, List.length_singleton] at hos
      exact ⟨os, hos.gap (by simp [htext]) hc⟩
  | @lexeme _ kind source _ _ hl hr ih =>
      obtain ⟨os, hos⟩ := ih (before ++ source) (by simp [htext])
        (by rw [hplace, Location.advance_append])
      exact ⟨_, .cons (by rw [htext, List.append_assoc]) hplace (hl.source_eq _)
        (fun w hw => hl.eq_spelling hw) hl.ne_nil hos⟩
  | @fault place c rest cause hf =>
      subst htext hplace
      refine ⟨[], .nil, .nil, by simp, by simp, ?_⟩
      rintro cause' l hl
      obtain ⟨rfl, rfl⟩ := Prod.mk.inj (Option.some.inj hl)
      exact ⟨before.length, (Location.ofOffset_length ..).symm, Nat.le_refl _, by simp,
        fun i hi ho => absurd ho (Nat.not_lt.mpr hi), c, by simp, lexeme_error hf⟩

end Lexer

end Inlay
