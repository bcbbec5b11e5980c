import Mathlib.Data.List.Forall2
import Mathlib.Tactic.SplitIfs
import Inlay.Format
import Inlay.Number.Reading
import Inlay.Time.Instant

/-!
# The payloads of not-a-numbers do not show

A payload tells one not-a-number from another and is good for nothing else.
Two numbers are `Like` if they differ at most in their payloads: everything
that is computed from a number without looking at its identity is the same for
both, and an operation on like numbers gives one number, or a not-a-number with
the payload that the operation was handed in either run (`Made`).
-/

namespace Inlay

namespace Binary64

/-- One number, or two not-a-numbers. -/
inductive Like : Binary64 → Binary64 → Prop
  | number {x : Binary64} (h : x.isNaN = false) : Like x x
  | nan (p q : Nat) : Like (.nan p) (.nan q)

/-- The outcomes of one operation that was handed the payload `p` in one run and
`q` in the other. -/
inductive Made (p q : Nat) : Binary64 → Binary64 → Prop
  | number {x : Binary64} (h : x.isNaN = false) : Made p q x x
  | nan : Made p q (.nan p) (.nan q)

theorem Like.refl (x : Binary64) : Like x x := by
  cases x with
  | nan p => exact .nan p p
  | infinite | finite => exact .number rfl

theorem Made.like {p q : Nat} {x y : Binary64} (h : Made p q x y) : Like x y := by
  cases h with
  | number h => exact .number h
  | nan => exact .nan p q

/-! ## What does not look at payloads -/

section

variable {x x' y y' : Binary64}

theorem Like.text (h : Like x y) : x.text = y.text := by
  cases h <;> rfl

theorem Like.position? (h : Like x y) : x.position? = y.position? := by
  cases h <;> rfl

theorem Like.isZero (h : Like x y) : x.isZero = y.isZero := by
  cases h <;> rfl

theorem Like.equals (h : Like x x') (h' : Like y y') : x.equals y = x'.equals y' := by
  unfold Binary64.equals
  rw [h.position?, h'.position?]

end

/-! ## What operations make -/

theorem isNaN_ofParts (negative : Bool) (significand place : Nat) :
    (ofParts negative significand place).isNaN = false := by
  unfold ofParts
  split <;> rfl

theorem isNaN_nearest (negative : Bool) (num den : Nat) :
    (nearest negative num den).isNaN = false := by
  unfold nearest
  dsimp only
  split <;> exact isNaN_ofParts ..

theorem isNaN_ofScaled (zeroSign : Bool) (units : Int) :
    (ofScaled zeroSign units).isNaN = false := by
  unfold ofScaled
  split
  · rfl
  · exact isNaN_nearest ..

theorem isNaN_ofDecimal (negative : Bool) (digits : Nat) (exponent : Int) :
    (ofDecimal negative digits exponent).isNaN = false := by
  unfold ofDecimal
  dsimp only
  split_ifs
  · rfl
  · rfl
  · rfl
  · exact isNaN_nearest ..
  · exact isNaN_nearest ..

theorem isNaN_of_isFinite {x : Binary64} (h : x.isFinite = true) : x.isNaN = false := by
  cases x with
  | finite => rfl
  | nan | infinite => cases h

section

variable {p q : Nat} {x x' y y' : Binary64}

/-- An operation that makes a fresh not-a-number of any not-a-number makes the
same of like numbers if it does so of other numbers. -/
theorem made_of_self {op : Nat → Binary64 → Binary64 → Binary64}
    (hleft : ∀ p n y, op p (.nan n) y = .nan p) (hright : ∀ p x n, op p x (.nan n) = .nan p)
    (hself : ∀ x y, x.isNaN = false → y.isNaN = false → Made p q (op p x y) (op q x y))
    (hx : Like x x') (hy : Like y y') : Made p q (op p x y) (op q x' y') := by
  cases hx with
  | nan =>
      rw [hleft, hleft]
      exact .nan
  | number hx =>
      cases hy with
      | nan =>
          rw [hright, hright]
          exact .nan
      | number hy => exact hself _ _ hx hy

theorem Like.neg (h : Like x y) : Like x.neg y.neg := by
  cases h with
  | number h => exact .refl _
  | nan p q => exact .nan p q

/-- An operation on numbers that are no not-a-numbers may make one. -/
theorem add_made_self (x y : Binary64) (hx : x.isNaN = false) (hy : y.isNaN = false) :
    Made p q (add p x y) (add q x y) := by
  cases x with
  | nan => cases hx
  | infinite a =>
      cases y with
      | nan => cases hy
      | infinite b =>
          unfold add
          dsimp only
          split
          · exact .number rfl
          · exact .nan
      | finite => exact .number rfl
  | finite =>
      cases y with
      | nan => cases hy
      | infinite b => exact .number rfl
      | finite => exact .number (isNaN_ofScaled ..)

theorem add_made (hx : Like x x') (hy : Like y y') : Made p q (add p x y) (add q x' y') :=
  made_of_self (fun _ _ _ => rfl) (fun _ x _ => by cases x <;> rfl) add_made_self hx hy

theorem sub_made (hx : Like x x') (hy : Like y y') : Made p q (sub p x y) (sub q x' y') :=
  add_made hx hy.neg

theorem mul_made_self (x y : Binary64) (hx : x.isNaN = false) (hy : y.isNaN = false) :
    Made p q (mul p x y) (mul q x y) := by
  unfold mul
  cases x with
  | nan => cases hx
  | infinite a =>
      cases y with
      | nan => cases hy
      | infinite b => exact .number rfl
      | finite =>
          dsimp only
          split
          · exact .nan
          · exact .number rfl
  | finite =>
      cases y with
      | nan => cases hy
      | infinite b =>
          dsimp only
          split
          · exact .nan
          · exact .number rfl
      | finite =>
          dsimp only
          split
          · exact .number rfl
          · exact .number (isNaN_nearest ..)

theorem mul_made (hx : Like x x') (hy : Like y y') : Made p q (mul p x y) (mul q x' y') :=
  made_of_self (fun _ _ _ => rfl) (fun _ x _ => by cases x <;> rfl) mul_made_self hx hy

theorem div_made_self (x y : Binary64) (hx : x.isNaN = false) (hy : y.isNaN = false) :
    Made p q (div p x y) (div q x y) := by
  unfold div
  cases x with
  | nan => cases hx
  | infinite a =>
      cases y with
      | nan => cases hy
      | infinite b => exact .nan
      | finite => exact .number rfl
  | finite =>
      cases y with
      | nan => cases hy
      | infinite b => exact .number rfl
      | finite =>
          dsimp only
          split
          · exact .nan
          · split
            · exact .number rfl
            · exact .number (isNaN_nearest ..)

theorem div_made (hx : Like x x') (hy : Like y y') : Made p q (div p x y) (div q x' y') :=
  made_of_self (fun _ _ _ => rfl) (fun _ x _ => by cases x <;> rfl) div_made_self hx hy

theorem remainder?_made_self (x y : Binary64) (hx : x.isNaN = false) (hy : y.isNaN = false) :
    Option.Rel (Made p q) (remainder? p x y) (remainder? q x y) := by
  unfold remainder?
  cases x with
  | nan => cases hx
  | infinite a =>
      cases y with
      | nan => cases hy
      | infinite | finite => exact .none
  | finite =>
      cases y with
      | nan => cases hy
      | infinite b => exact .some (.number rfl)
      | finite =>
          dsimp only
          split
          · exact .none
          · exact .some (.number (isNaN_ofScaled ..))

theorem remainder?_made (hx : Like x x') (hy : Like y y') :
    Option.Rel (Made p q) (remainder? p x y) (remainder? q x' y') := by
  cases hx with
  | nan => exact .some .nan
  | @number x hx =>
      cases hy with
      | nan => cases x <;> exact .some .nan
      | number hy => exact remainder?_made_self x _ hx hy

/-- A text is read as one number in both runs, or as a fresh not-a-number. -/
theorem readFloat?_made (p q : Nat) (cs : List Char) :
    Option.Rel (Made p q) (Numeral.readFloat? p cs) (Numeral.readFloat? q cs) := by
  unfold Numeral.readFloat?
  dsimp only
  split
  · exact .some (.number rfl)
  · split
    · exact .some .nan
    · split
      · exact .none
      · cases Numeral.readParts? _ with
        | none => exact .none
        | some parts => exact .some (.number (isNaN_ofDecimal ..))

end

end Binary64

/-! ## Formats and times -/

open Binary64 in
theorem Format.layFloat_like {x y : Binary64} (h : Like x y) (spec : Spec) :
    layFloat spec x = layFloat spec y := by
  cases h with
  | number => rfl
  | nan p q =>
      unfold layFloat
      dsimp only
      split
      · rfl
      · split <;> rfl

/-- Arguments of a format text that differ at most in payloads. -/
inductive Format.Argument.Like : Format.Argument → Format.Argument → Prop
  | text {s t : String} (h : s = t) : Like (.text s) (.text t)
  | integer (n : Int) : Like (.integer n) (.integer n)
  | float {x y : Binary64} (h : Binary64.Like x y) : Like (.float x) (.float y)

theorem Format.Argument.Like.show_eq {a b : Format.Argument} (h : Like a b)
    (specification : List Char) : a.show specification = b.show specification := by
  cases h with
  | text h => rw [h]
  | integer => rfl
  | float h =>
      simp only [Argument.show, Argument.plain, Argument.showFloat, h.text, layFloat_like h]

theorem Format.fillPieces_like {as bs : List Format.Argument} (h : List.Forall₂ Argument.Like as bs)
    (numbering : Numbering) (parts : List Piece) :
    fillPieces as numbering parts = fillPieces bs numbering parts := by
  have hget : ∀ i : Nat, Option.Rel Argument.Like as[i]? bs[i]? := by
    induction h with
    | nil => exact fun _ => .none
    | cons hab _ ih =>
        intro i
        cases i with
        | zero => exact .some hab
        | succ i => exact ih i
  induction parts generalizing numbering with
  | nil => rfl
  | cons part rest ih =>
      cases part with
      | literal cs => rw [fillPieces, fillPieces, ih]
      | field f =>
          rw [fillPieces, fillPieces]
          refine bind_congr fun ⟨i, numbering⟩ => ?_
          have hfound := hget i
          dsimp only
          generalize as[i]? = a at hfound ⊢
          generalize bs[i]? = b at hfound ⊢
          cases hfound with
          | none => rfl
          | some hab => simp only [hab.show_eq, ih]

/-- A format text is filled in the same way. -/
theorem Format.fill_like {as bs : List Format.Argument} (h : List.Forall₂ Argument.Like as bs)
    (text : String) : fill text as = fill text bs := by
  unfold fill
  simp only [fillPieces_like h]

theorem Time.Instant.ofFloatMillis_like {x y : Binary64} (h : Binary64.Like x y) :
    ofFloatMillis x = ofFloatMillis y := by
  cases h <;> rfl

end Inlay
