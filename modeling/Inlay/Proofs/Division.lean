import Mathlib.Algebra.Order.Floor.Ring
import Mathlib.Data.Rat.Floor
import Mathlib.Tactic.Linarith
import Mathlib.Tactic.Ring
import Inlay.Proofs.WellFormedValues

/-!
# Division of integers

The library divides the sizes of two integers and then gives the quotient and what is
left their signs. That is division toward zero: the quotient is the rational one with
its fraction dropped (`quotient_eq_towardZero`), and what is left stands on the
dividend's side (`remainder_side`).

Of the integers of 64 bits the least has no counterpart on the other side, so its
quotient by `-1` is the only one that does not fit (`inRange_quotient_iff`); a remainder
always does. `truncated_division` says all of it of the two routines.
-/

namespace Inlay

/-- A rational number rounded toward zero. -/
def towardZero (x : ℚ) : ℤ := if 0 ≤ x then ⌊x⌋ else ⌈x⌉

theorem towardZero_neg (x : ℚ) : towardZero (-x) = -towardZero x := by
  rcases lt_trichotomy x 0 with hx | rfl | hx
  · rw [towardZero, towardZero, if_pos (by linarith), if_neg (by linarith), Int.floor_neg]
  · rfl
  · rw [towardZero, towardZero, if_neg (by linarith), if_pos hx.le, Int.ceil_neg]

theorem towardZero_natCast_div (m n : ℕ) : towardZero (m / n) = (m / n : ℕ) := by
  rw [towardZero, if_pos (by positivity)]
  exact Rat.floor_natCast_div_natCast m n

namespace Arithmetic

variable {a b : Int}

/-! ## The sides of quotients and remainders -/

theorem quotient_natCast (m n : ℕ) : quotient m n = (m / n : ℕ) := by
  simp [quotient, (Int.natCast_nonneg _).not_gt]

theorem quotient_neg_left (a b : Int) : quotient (-a) b = -quotient a b := by
  rcases lt_trichotomy a 0 with ha | rfl | ha
  · by_cases hb : b < 0 <;> simp [quotient, ha, hb, ha.not_gt]
  · simp [quotient]
  · by_cases hb : b < 0 <;> simp [quotient, ha, hb, ha.not_gt]

theorem quotient_neg_right (a b : Int) : quotient a (-b) = -quotient a b := by
  rcases lt_trichotomy b 0 with hb | rfl | hb
  · by_cases ha : a < 0 <;> simp [quotient, ha, hb, hb.not_gt]
  · simp [quotient]
  · by_cases ha : a < 0 <;> simp [quotient, ha, hb, hb.not_gt]

theorem remainder_natCast (m n : ℕ) : remainder m n = (m % n : ℕ) := by
  simp [remainder]

theorem remainder_neg_left (a b : Int) : remainder (-a) b = -remainder a b := by
  rcases lt_trichotomy a 0 with ha | rfl | ha
  · simp [remainder, ha.le, ha.not_ge]
  · simp [remainder]
  · simp [remainder, ha.le, ha.not_ge]

theorem remainder_neg_right (a b : Int) : remainder a (-b) = remainder a b := by
  simp [remainder]

/-! ## Division of two integers -/

theorem quotient_eq_towardZero (a b : Int) : quotient a b = towardZero (a / b) := by
  obtain ⟨m, rfl | rfl⟩ := a.eq_nat_or_neg <;> obtain ⟨n, rfl | rfl⟩ := b.eq_nat_or_neg <;>
    simp only [quotient_neg_left, quotient_neg_right, quotient_natCast, Int.cast_neg,
      Int.cast_natCast, neg_div, div_neg, towardZero_neg, towardZero_natCast_div]

theorem quotient_mul_add_remainder (a b : Int) : quotient a b * b + remainder a b = a := by
  have hsizes (m n : ℕ) : quotient m n * n + remainder m n = m := by
    rw [quotient_natCast, remainder_natCast]
    exact_mod_cast Nat.div_add_mod' m n
  obtain ⟨m, rfl | rfl⟩ := a.eq_nat_or_neg <;> obtain ⟨n, rfl | rfl⟩ := b.eq_nat_or_neg
  · exact hsizes m n
  · rw [quotient_neg_right, remainder_neg_right]
    linarith [hsizes m n]
  · rw [quotient_neg_left, remainder_neg_left]
    linarith [hsizes m n]
  · rw [quotient_neg_left, quotient_neg_right, remainder_neg_left, remainder_neg_right]
    linarith [hsizes m n]

theorem natAbs_remainder (a b : Int) : (remainder a b).natAbs = a.natAbs % b.natAbs := by
  simp only [remainder]
  split_ifs
  · exact Int.natAbs_natCast _
  · rw [Int.natAbs_neg, Int.natAbs_natCast]

theorem abs_remainder_lt (a : Int) (hb : b ≠ 0) : |remainder a b| < |b| := by
  rw [Int.abs_eq_natAbs, Int.abs_eq_natAbs, natAbs_remainder]
  exact_mod_cast Nat.mod_lt _ (Int.natAbs_pos.mpr hb)

theorem remainder_side (a b : Int) : remainder a b = 0 ∨ (remainder a b).sign = a.sign := by
  have hle : a.natAbs % b.natAbs ≤ a.natAbs := Nat.mod_le _ _
  simp only [remainder]
  generalize a.natAbs % b.natAbs = size at hle ⊢
  rcases Nat.eq_zero_or_pos size with rfl | hsize
  · exact .inl (by split_ifs <;> rfl)
  · right
    split_ifs with ha
    · rw [Int.sign_eq_one_of_pos (by omega), Int.sign_eq_one_of_pos (by omega)]
    · rw [Int.sign_eq_neg_one_of_neg (by omega), Int.sign_eq_neg_one_of_neg (by omega)]

theorem inRange_quotient_iff (ha : Number.inRange a = true) (hb : b ≠ 0) :
    Number.inRange (quotient a b) = true ↔ ¬ (a = Number.least ∧ b = -1) := by
  rw [Value.inRange_iff] at ha ⊢
  simp only [quotient, Number.least, decide_eq_decide]
  by_cases hunit : b.natAbs = 1
  · rw [hunit, Nat.div_one]
    split_ifs <;> omega
  · have hhalf : a.natAbs / b.natAbs ≤ a.natAbs / 2 := Nat.div_le_div_left (by omega) (by decide)
    generalize a.natAbs / b.natAbs = size at hhalf ⊢
    split_ifs <;> omega

/-- An integer divided by another one: a quotient and what is left. -/
structure Divides (a b q r : Int) : Prop where
  split : a = q * b + r
  small : |r| < |b|
  side : r = 0 ∨ r.sign = a.sign
  rounded : q = towardZero (a / b)

theorem divides (a : Int) (hb : b ≠ 0) : Divides a b (quotient a b) (remainder a b) where
  split := (quotient_mul_add_remainder a b).symm
  small := abs_remainder_lt a hb
  side := remainder_side a b
  rounded := quotient_eq_towardZero a b

end Arithmetic

/-! ## The routines -/

/-- A routine fails with a fault of a class. -/
def Outcome.FailsAs {α : Type} (x : Outcome α) (c : FaultClass) : Prop :=
  ∃ fault, x = .error fault ∧ fault.class? = some c

@[simp]
theorem Outcome.failsAs_error {α : Type} (fault : CallFault) (c : FaultClass) :
    FailsAs (.error fault : Outcome α) c ↔ fault.class? = some c := by
  simp [FailsAs]

@[simp]
theorem Outcome.not_failsAs_ok {α : Type} (a : α) (c : FaultClass) :
    ¬ FailsAs (.ok a : Outcome α) c := by
  simp [FailsAs]

section

open StandardRoutine Arithmetic

variable (s : Surroundings)

theorem run_div_zero (a : Int) :
    div.run s [.integer a, .integer 0] = .error .integerDivisionByZero := rfl

theorem run_div_least :
    div.run s [.integer Number.least, .integer (-1)] = .error .integerOverflow := rfl

theorem run_div {a b : Int} (ha : Number.inRange a = true) (hb : b ≠ 0)
    (hfits : ¬ (a = Number.least ∧ b = -1)) :
    div.run s [.integer a, .integer b] = .ok (.integer (quotient a b)) := by
  have hquotient : Number.bounded (quotient a b) = .ok (quotient a b) :=
    if_pos ((inRange_quotient_iff ha hb).mpr hfits)
  calc div.run s [.integer a, .integer b]
      = (Number.bounded (quotient a b)).map .integer := if_neg hb
    _ = .ok (.integer (quotient a b)) := by rw [hquotient]; rfl

theorem run_mod_zero (a : Int) :
    mod.run s [.integer a, .integer 0] = .error .moduloByZero := rfl

theorem run_mod {b : Int} (a : Int) (hb : b ≠ 0) :
    mod.run s [.integer a, .integer b] = .ok (.integer (remainder a b)) :=
  if_neg (by simpa [Number.isZero] using hb)

/-- Division of integers is division toward zero. Both routines fail for a divisor of
zero; besides, only the quotient of the least integer by `-1` does not exist. -/
theorem truncated_division (s s' : Surroundings) {a : Int} (b : Int)
    (ha : Number.inRange a = true) :
    (Outcome.FailsAs (div.run s [.integer a, .integer b]) .zeroDivision ↔ b = 0) ∧
    (Outcome.FailsAs (mod.run s' [.integer a, .integer b]) .zeroDivision ↔ b = 0) ∧
    (Outcome.FailsAs (div.run s [.integer a, .integer b]) .overflow ↔ a = Number.least ∧ b = -1) ∧
    ¬ Outcome.FailsAs (mod.run s' [.integer a, .integer b]) .overflow ∧
    (b ≠ 0 → ∃ q r, Divides a b q r ∧
      mod.run s' [.integer a, .integer b] = .ok (.integer r) ∧
      (¬ (a = Number.least ∧ b = -1) →
        div.run s [.integer a, .integer b] = .ok (.integer q))) := by
  rcases eq_or_ne b 0 with rfl | hb
  · simp [run_div_zero, run_mod_zero, CallFault.class?]
  · have hresults := fun hfits => run_div s ha hb hfits
    rw [run_mod s' a hb]
    refine ⟨?_, by simp [hb], ?_, by simp, fun _ => ⟨_, _, divides a hb, rfl, hresults⟩⟩
    · by_cases hleast : a = Number.least ∧ b = -1
      · obtain ⟨rfl, rfl⟩ := hleast
        simp [run_div_least, CallFault.class?]
      · simp [hresults hleast, hb]
    · by_cases hleast : a = Number.least ∧ b = -1
      · obtain ⟨rfl, rfl⟩ := hleast
        simp [run_div_least, CallFault.class?]
      · simp [hresults hleast, hleast]

theorem truncated_division_negative :
    Number.inRange (-22) = true ∧
      div.run ⟨0, 0⟩ [.integer (-22), .integer 7] = .ok (.integer (-3)) ∧
      mod.run ⟨0, 1⟩ [.integer (-22), .integer 7] = .ok (.integer (-1)) ∧
      Divides (-22) 7 (-3) (-1) := by
  have hrange : Number.inRange (-22) = true := by decide
  obtain ⟨-, -, -, -, hresults⟩ := truncated_division ⟨0, 0⟩ ⟨0, 1⟩ 7 hrange
  obtain ⟨q, r, hdivides, hmod, hdiv⟩ := hresults (by decide)
  cases hmod
  cases hdiv (by decide)
  exact ⟨hrange, rfl, rfl, hdivides⟩

end

end Inlay
