import Inlay.Proofs.Lexing

/-!
# The order of places

Reading on from a place leads to a later one, so the tokens of a text stand at
increasing places and no two of them at the same. Every node of a tree takes
its place from a token; that nodes can be told apart by their places rests on
the order here.
-/

namespace Inlay

namespace Location

/-- One place stands before another. -/
def Before (l m : Location) : Prop :=
  l.line < m.line ∨ l.line = m.line ∧ l.column < m.column

theorem Before.trans {l m n : Location} (h : l.Before m) (h' : m.Before n) : l.Before n := by
  unfold Before at *
  omega

theorem Before.ne {l m : Location} (h : l.Before m) : l ≠ m := by
  rintro rfl
  unfold Before at h
  omega

theorem before_after (l : Location) (c : Char) : l.Before (l.after c) := by
  unfold after
  split
  · exact .inl (Nat.lt_succ_self _)
  · exact .inr ⟨rfl, Nat.lt_succ_self _⟩

/-- Characters lead from a place to a later one. -/
theorem before_advance {cs : List Char} (h : cs ≠ []) (l : Location) :
    l.Before (l.advance cs) := by
  induction cs generalizing l with
  | nil => exact absurd rfl h
  | cons c cs ih =>
      have hstep := before_after l c
      cases cs with
      | nil => exact hstep
      | cons d cs => exact hstep.trans (ih (by simp) (l.after c))

/-- Two beginnings of a text that lead to one place are one. -/
theorem eq_of_advance {xs ys cs : List Char} (hx : xs <+: cs) (hy : ys <+: cs)
    (h : start.advance xs = start.advance ys) : xs = ys := by
  have hnil : ∀ {xs more : List Char}, start.advance xs = start.advance (xs ++ more) →
      more = [] := by
    intro xs more h
    by_contra hmore
    rw [advance_append] at h
    exact (before_advance hmore _).ne h
  rcases List.prefix_or_prefix_of_prefix hx hy with ⟨more, rfl⟩ | ⟨more, rfl⟩
  · rw [hnil h, List.append_nil]
  · rw [hnil h.symm, List.append_nil]

end Location

namespace Lexer

/-- From its place on, a reading puts every token later than the one before. -/
theorem run_increases {mode : Mode} {place : Location} {cs : List Char} {r : Lexed}
    (h : Run mode place cs r) :
    (∀ t ∈ r.tokens, place = t.location ∨ place.Before t.location) ∧
      r.tokens.Pairwise fun t u => t.location.Before u.location := by
  have step : ∀ {place : Location} {t : Token} {source : List Char} {r : Lexed},
      t.location = place → source ≠ [] →
      ((∀ u ∈ r.tokens, place.advance source = u.location ∨
          (place.advance source).Before u.location) ∧
        r.tokens.Pairwise fun t u => t.location.Before u.location) →
      (∀ u ∈ (Lexed.cons t r).tokens, place = u.location ∨ place.Before u.location) ∧
        (Lexed.cons t r).tokens.Pairwise fun t u => t.location.Before u.location := by
    rintro place t source r rfl hne ⟨hfrom, hpair⟩
    have hlater : ∀ u ∈ r.tokens, t.location.Before u.location := fun u hu => by
      have hstep := Location.before_advance hne t.location
      rcases hfrom u hu with heq | hbefore
      · exact heq ▸ hstep
      · exact hstep.trans hbefore
    exact ⟨List.forall_mem_cons.mpr ⟨.inl rfl, fun u hu => .inr (hlater u hu)⟩,
      List.pairwise_cons.mpr ⟨hlater, hpair⟩⟩
  induction h with
  | done mode place => simp
  | opening hr ih => exact step rfl (by simp [openingMark]) ih
  | text hne hmark hstop hr ih => exact step rfl hne ih
  | @gap place c rest r hc hr ih =>
      refine ⟨fun t ht => .inr ?_, ih.2⟩
      have hstep := Location.before_after place c
      rcases ih.1 t ht with heq | hbefore
      · exact heq ▸ hstep
      · exact hstep.trans hbefore
  | lexeme hl hr ih => exact step rfl hl.ne_nil ih
  | fault hf => simp

end Lexer

/-- No two tokens of a text stand at one place. -/
theorem nodup_places (text : String) :
    ((tokenize text).tokens.map Token.location).Nodup := by
  have h := (Lexer.run_increases (Lexer.tokensFrom_run .plain .start text.toList)).2
  rw [List.Nodup, List.pairwise_map]
  exact h.imp fun hbefore => hbefore.ne

end Inlay
