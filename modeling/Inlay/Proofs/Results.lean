import Mathlib.Data.List.Forall2

/-!
# Results of several steps

What steps that may fail come to: in a row the result of the last one (`bind_ok`), and
for a list of them the results of all (`mapM_eq_ok_iff`) or the fault of one
(`exists_of_mapM_eq_error`).
-/

namespace Inlay

/-- Steps in a row succeed just if each one does, from what the one before came to. -/
theorem bind_ok {α β ε : Type} {x : Except ε α} {f : α → Except ε β} {b : β} :
    (x >>= f) = .ok b ↔ ∃ a, x = .ok a ∧ f a = .ok b := by
  cases x with
  | error e => exact ⟨(fun h => nomatch h), fun ⟨_, h, _⟩ => nomatch h⟩
  | ok a => exact ⟨fun h => ⟨a, rfl, h⟩, fun ⟨_, h, h'⟩ => Except.ok.inj h ▸ h'⟩

theorem pure_ok {α ε : Type} {a b : α} : (pure a : Except ε α) = .ok b ↔ a = b :=
  ⟨Except.ok.inj, congrArg _⟩

/-- Steps in a row fail as one of them does, after those before it have succeeded. -/
theorem bind_error {α β ε : Type} {x : Except ε α} {f : α → Except ε β} {e : ε} :
    (x >>= f) = .error e ↔ x = .error e ∨ ∃ a, x = .ok a ∧ f a = .error e := by
  cases x with
  | error e' => exact ⟨fun h => .inl (congrArg _ (Except.error.inj h)), fun h =>
      h.elim (congrArg _ ∘ Except.error.inj) fun ⟨_, h, _⟩ => nomatch h⟩
  | ok a => exact ⟨fun h => .inr ⟨a, rfl, h⟩, fun h =>
      h.elim (fun h => nomatch h) fun ⟨_, h, h'⟩ => Except.ok.inj h ▸ h'⟩

theorem exists_of_map_eq_ok {α β ε : Type} {f : α → β} {x : Except ε α} {b : β}
    (h : x.map f = .ok b) : ∃ a, x = .ok a ∧ f a = b := by
  cases x with
  | error e => cases h
  | ok a => exact ⟨a, rfl, Except.ok.inj h⟩

/-- The steps of a list all succeed just if each one does. -/
theorem mapM_eq_ok_iff {α β ε : Type} {f : α → Except ε β} {as : List α} {bs : List β} :
    as.mapM f = .ok bs ↔ List.Forall₂ (fun a b => f a = .ok b) as bs := by
  induction as generalizing bs with
  | nil =>
      rw [List.mapM_nil, List.forall₂_nil_left_iff]
      exact ⟨fun h => (Except.ok.inj h).symm, fun h => congrArg _ h.symm⟩
  | cons a as ih =>
      rw [List.mapM_cons, List.forall₂_cons_left_iff]
      constructor
      · intro h
        cases ha : f a with
        | error e => rw [ha] at h; cases h
        | ok b =>
            rw [ha] at h
            cases hrest : as.mapM f with
            | error e => simp only [hrest] at h; cases h
            | ok bs' =>
                simp only [hrest] at h
                cases h
                exact ⟨b, bs', rfl, ih.mp hrest, rfl⟩
      · rintro ⟨b, bs', ha, hrest, rfl⟩
        rw [ha, ih.mpr hrest]
        rfl

/-- Steps in a row fail as the first of them does that fails. -/
theorem exists_of_mapM_eq_error {α β ε : Type} {f : α → Except ε β} {as : List α} {e : ε}
    (h : as.mapM f = .error e) : ∃ a ∈ as, f a = .error e := by
  induction as with
  | nil => cases h
  | cons a as ih =>
      rw [List.mapM_cons] at h
      cases ha : f a with
      | error e' =>
          rw [ha] at h
          cases h
          exact ⟨a, List.mem_cons_self, ha⟩
      | ok b =>
          rw [ha] at h
          cases hrest : as.mapM f with
          | error e' =>
              simp only [hrest] at h
              cases h
              obtain ⟨a', ha', he⟩ := ih hrest
              exact ⟨a', List.mem_cons_of_mem _ ha', he⟩
          | ok bs => simp only [hrest] at h; cases h

end Inlay
