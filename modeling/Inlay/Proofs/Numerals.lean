import Mathlib.Data.List.Basic
import Inlay.Proofs.Lexing
import Inlay.Number.Display
import Inlay.Number.Reading

/-!
# Numerals of digits

A run of the ten digits, with or without a minus, reads as the number that its
digits spell; only its length can stand in the way. The digits of a number
spell it again.
-/

namespace Inlay

namespace Numeral

open Lexer (IsDigits)

theorem decimalValue?_digit {c : Char} (h : Lexer.isDigit c = true) :
    Text.decimalValue? c = some (c.toNat - 0x30) := by
  have h' : Text.isAsciiDigit c = true := h
  have hlt : c.toNat < 128 := by
    simp only [Text.isAsciiDigit, Bool.and_eq_true, decide_eq_true_eq] at h'
    have h2 : c.toNat ≤ '9'.toNat := h'.2
    exact Nat.lt_of_le_of_lt h2 (by decide)
  rw [Text.decimalValue?, if_pos hlt, if_pos h']

theorem isDecimalDigit_digit {c : Char} (h : Lexer.isDigit c = true) :
    Text.isDecimalDigit c = true := by
  rw [Text.isDecimalDigit, decimalValue?_digit h]
  rfl

theorem digit_ne {c d : Char} (h : Lexer.isDigit c = true) (hd : Lexer.isDigit d = false) :
    c ≠ d := by
  rintro rfl
  rw [h] at hd
  cases hd

theorem underscoresFit_digits {ds : List Char} (h : ∀ d ∈ ds, Lexer.isDigit d = true)
    {previous : Char} (hp : previous ≠ '_') : underscoresFit previous ds = true := by
  induction ds generalizing previous with
  | nil => simpa [underscoresFit] using hp
  | cons c ds ih =>
      have hc := h c (by simp)
      have hne : c ≠ '_' := digit_ne hc (by decide)
      rw [underscoresFit.eq_3]
      · simp [hp, ih (fun d hd => h d (by simp [hd])) hne]
      · exact hne

theorem splitSign_digits {ds : List Char} (h : ∀ d ∈ ds, Lexer.isDigit d = true) :
    splitSign ds = (false, ds) := by
  unfold splitSign
  split
  · exact absurd rfl (digit_ne (h '-' (by simp)) (d := '-') (by decide))
  · exact absurd rfl (digit_ne (h '+' (by simp)) (d := '+') (by decide))
  · rfl

/-- The value that a numeral is given is that of its digits in base ten. -/
theorem value_digits {ds : List Char} (h : ∀ d ∈ ds, Lexer.isDigit d = true) :
    value ds = Nat.ofDigitChars 10 ds 0 := by
  unfold value Nat.ofDigitChars
  refine List.foldl_ext _ _ 0 fun n c hc => ?_
  rw [decimalValue?_digit (h c hc)]
  rfl

/-- Digits after their sign has been split off. -/
theorem readInteger_of_split {cs ds : List Char} {negative : Bool} (hd : IsDigits ds)
    (hs : splitSign cs = (negative, ds)) :
    readInteger cs = if digitLimit < ds.length then .error (.tooLong ds.length)
      else .ok
        (if negative then -(Nat.ofDigitChars 10 ds 0 : Int) else Nat.ofDigitChars 10 ds 0) := by
  obtain ⟨hne, hall⟩ := hd
  have hrun : ds.takeWhile (fun c => Text.isDecimalDigit c || c == '_') = ds :=
    List.takeWhile_eq_self_iff.mpr fun c hc => by simp [isDecimalDigit_digit (hall c hc)]
  have hfilter : ds.filter Text.isDecimalDigit = ds :=
    List.filter_eq_self.mpr fun c hc => isDecimalDigit_digit (hall c hc)
  have hfit : underscoresFit ' ' ds = true := underscoresFit_digits hall (by decide)
  have hempty : ds.isEmpty = false := by simpa using hne
  simp only [readInteger, hs, hrun, hfilter, hfit, hempty, value_digits hall]
  simp

end Numeral

/-! ## The digits of a number -/

namespace Decimal

theorem isDigits_digitsOf (n : Nat) : Lexer.IsDigits (digitsOf n) := by
  refine ⟨Nat.toDigits_ne_nil, fun d hd => ?_⟩
  have h : d.isDigit = true := Nat.isDigit_of_mem_toDigits (by decide) (by decide) hd
  simp only [Char.isDigit, Bool.and_eq_true, decide_eq_true_eq] at h
  simp only [Lexer.isDigit, Bool.and_eq_true, decide_eq_true_eq]
  exact h

theorem ofDigitChars_digitsOf (n : Nat) : Nat.ofDigitChars 10 (digitsOf n) 0 = n :=
  Nat.ofDigitChars_ten_toDigits

/-- Numbers that fit into 64 bits are short enough to be read. -/
theorem length_digitsOf_le {n : Nat} (h : n ≤ 0x10000000000000000) :
    (digitsOf n).length ≤ Numeral.digitLimit := by
  have h20 : (digitsOf n).length ≤ 20 :=
    (Nat.length_toDigits_le_iff (by decide) (by decide)).mpr (Nat.lt_of_le_of_lt h (by decide))
  exact h20.trans (by decide)

end Decimal

end Inlay
