import Inlay.Proofs.Division

/-!
# Integer results

A sum, difference or product of integers is computed exactly, whatever is passed
through on the way, and only the result has to fit into 64 bits (`Outcome.Exactly`).
So nothing but the number that is computed decides the outcome: neither the order of
the arguments nor how far a part of the sum or product strays
(`integer_results_exact`).

The routines of arithmetic meet this range for arguments of any size, a host's
included, with one exception: a remainder is not looked at. It lies between zero and
the dividend and is smaller than the divisor, so it stays in the range if one of them
does, but that of two integers beyond the range may be beyond it as well
(`integer_results_inRange`).
-/

namespace Inlay

/-- The outcome of a computation with the exact result `n`: that integer if it has
64 bits, else an overflow. -/
structure Outcome.Exactly (n : Int) (x : Outcome Value) : Prop where
  fits : Number.inRange n = true → x = .ok (.integer n)
  leaves : Number.inRange n = false → x.FailsAs .overflow

theorem exactly_bounded (n : Int) : Outcome.Exactly n ((Number.bounded n).map .integer) where
  fits h := by
    rw [Number.bounded, if_pos h]
    rfl
  leaves h := by
    rw [Number.bounded, if_neg (by simp [h])]
    exact (Outcome.failsAs_error _ _).mpr rfl

def Value.integers (ns : List Int) : List Value := ns.map .integer

/-! ## Integers in a fold -/

namespace Arithmetic

theorem numbers_integers (ns : List Int) :
    numbers (Value.integers ns) = .ok (ns.map Number.integer) := by
  rw [numbers, Value.integers, List.mapM_map]
  exact List.mapM_pure

/-- As long as only integers are met, the fold of a routine is that of the integers:
nothing on the way is rounded or refused. -/
theorem foldlM_combine (onIntegers : Int → Int → Int)
    (onFloats : Binary64 → Binary64 → Binary64) (m : Int) (ns : List Int) :
    (ns.map Number.integer).foldlM (Number.combine onIntegers onFloats) (.integer m) =
      .ok (.integer (ns.foldl onIntegers m)) := by
  induction ns generalizing m with
  | nil => rfl
  | cons n ns ih => exact ih (onIntegers m n)

/-- What a routine of many arguments computes from integers: their exact fold, which has
to fit. -/
theorem result_integers (onIntegers : Int → Int → Int)
    (onFloats : Binary64 → Binary64 → Binary64) (m : Int) (ns : List Int) :
    (do
      let xs ← numbers (Value.integers ns)
      let total ← xs.foldlM (Number.combine onIntegers onFloats) (.integer m)
      total.result) = (Number.bounded (ns.foldl onIntegers m)).map .integer := by
  rw [numbers_integers]
  change ((ns.map Number.integer).foldlM (Number.combine onIntegers onFloats) (.integer m) >>=
    Number.result) = _
  rw [foldlM_combine]
  rfl

end Arithmetic

section

open StandardRoutine Arithmetic

theorem run_add_integers (s : Surroundings) (ns : List Int) :
    add.run s (Value.integers ns) = (Number.bounded ns.sum).map .integer := by
  rw [List.sum_eq_foldl]
  exact result_integers (· + ·) (Binary64.add s.call) 0 ns

theorem run_mul_integers (s : Surroundings) (ns : List Int) :
    mul.run s (Value.integers ns) = (Number.bounded ns.prod).map .integer := by
  rw [List.prod_eq_foldl]
  exact result_integers (· * ·) (Binary64.mul s.call) 1 ns

theorem run_sub_integers (s : Surroundings) (a b : Int) :
    sub.run s [.integer a, .integer b] = (Number.bounded (a - b)).map .integer := rfl

/-- Sums, products and differences of integers of any size are exact or overflow, and
equal ones have the same outcome: whatever the order, the parts and the surroundings. -/
theorem integer_results_exact (s s' : Surroundings) (ns ms : List Int) (a b c d : Int) :
    Outcome.Exactly ns.sum (add.run s (Value.integers ns)) ∧
    Outcome.Exactly ns.prod (mul.run s (Value.integers ns)) ∧
    Outcome.Exactly (a - b) (sub.run s [.integer a, .integer b]) ∧
    (ms.Perm ns →
      add.run s' (Value.integers ms) = add.run s (Value.integers ns) ∧
      mul.run s' (Value.integers ms) = mul.run s (Value.integers ns)) ∧
    (ms.sum = ns.sum → add.run s' (Value.integers ms) = add.run s (Value.integers ns)) ∧
    (ms.prod = ns.prod → mul.run s' (Value.integers ms) = mul.run s (Value.integers ns)) ∧
    (c - d = a - b →
      sub.run s' [.integer c, .integer d] = sub.run s [.integer a, .integer b]) := by
  simp only [run_add_integers, run_mul_integers, run_sub_integers]
  refine ⟨exactly_bounded _, exactly_bounded _, exactly_bounded _, fun hperm => ?_,
    fun hsum => by rw [hsum], fun hprod => by rw [hprod], fun hdifference => by rw [hdifference]⟩
  rw [hperm.sum_eq, hperm.prod_eq]
  exact ⟨rfl, rfl⟩

/-- A part of the sum is beyond the range, the sum is not. -/
theorem integer_results_exact_strays :
    [Number.greatest, 1, -1].Perm [-1, Number.greatest, 1] ∧
      add.run ⟨0, 0⟩ (Value.integers [Number.greatest, 1, -1]) =
        .ok (.integer Number.greatest) ∧
      (add.run ⟨0, 1⟩ (Value.integers [Number.greatest, 1])).FailsAs .overflow := by
  have hperm : [Number.greatest, 1, -1].Perm [-1, Number.greatest, 1] := by decide
  obtain ⟨hsum, -, -, horder, -⟩ := integer_results_exact ⟨0, 1⟩ ⟨0, 0⟩
    [-1, Number.greatest, 1] [Number.greatest, 1, -1] 0 0 0 0
  obtain ⟨hbeyond, -⟩ := integer_results_exact ⟨0, 1⟩ ⟨0, 0⟩ [Number.greatest, 1] [] 0 0 0 0
  exact ⟨hperm, (horder hperm).1.trans (hsum.fits (by decide)), hbeyond.leaves (by decide)⟩

/-! ## The range of results -/

/-- A remainder is nearer to zero than the divisor. -/
theorem inRange_remainder_of_divisor (a : Int) {b : Int} (h : Number.inRange b = true)
    (hb : b ≠ 0) : Number.inRange (remainder a b) = true := by
  rw [Value.inRange_iff] at h ⊢
  have hsize : (remainder a b).natAbs < b.natAbs := by
    rw [natAbs_remainder]
    exact Nat.mod_lt _ (Int.natAbs_pos.mpr hb)
  omega

theorem yields_ofArgument (v : Value) :
    Outcome.Yields (fun x => v = x.toValue) (Number.ofArgument v) := by
  intro x hx
  cases v with
  | integer | float =>
      cases hx
      rfl
  | _ => cases hx

/-- Only of integers is the remainder an integer. -/
theorem yields_mod_remainder (payload : Nat) (v w : Value) :
    Outcome.Yields (fun r => ∀ n, r = .integer n →
      ∃ a b, v = .integer a ∧ w = .integer b ∧ b ≠ 0 ∧ n = remainder a b)
      (Arithmetic.mod payload v w) := by
  refine .bind (yields_ofArgument v) fun x hx => .bind (yields_ofArgument w) fun y hy => ?_
  split_ifs with hzero
  · exact .error _
  · split
    case h_1 a b =>
        refine .ok fun n hn => ⟨a, b, hx, hy, ?_, (Value.integer.inj hn).symm⟩
        simpa [Number.isZero] using hzero
    case h_2 =>
        refine .bind_any fun x => .bind_any fun y => ?_
        split
        · exact .ok fun n hn => by cases hn
        · exact .error _

theorem run_mod_integer {s : Surroundings} {vs : List Value} {n : Int}
    (h : mod.run s vs = .ok (.integer n)) :
    ∃ a b, vs = [.integer a, .integer b] ∧ b ≠ 0 ∧ n = remainder a b := by
  match vs with
  | [v, w] =>
      obtain ⟨a, b, rfl, rfl, hb, hn⟩ := yields_mod_remainder s.call v w _ h n rfl
      exact ⟨a, b, rfl, hb, hn⟩
  | [] | [_] | _ :: _ :: _ :: _ => cases h

/-- A routine whose result is bounded returns no other integers. -/
theorem inRange_of_yields {x : Outcome Value} {n : Int} (hx : x.Yields Value.WellFormed)
    (h : x = .ok (.integer n)) : Number.inRange n = true :=
  (hx _ h).inRange

/-- The other four routines check their integers on every way out. -/
theorem inRange_of_run {s : Surroundings} {vs : List Value} {n : Int} {routine : StandardRoutine}
    (hroutine : routine ∈ [StandardRoutine.add, .sub, .mul, .div])
    (h : routine.run s vs = .ok (.integer n)) : Number.inRange n = true := by
  simp only [List.mem_cons, List.not_mem_nil, or_false] at hroutine
  rcases hroutine with rfl | rfl | rfl | rfl
  · exact inRange_of_yields (.bind_any fun _ => .bind_any yields_result) h
  · match vs with
    | [_, _] =>
        exact inRange_of_yields
          (.bind_any fun _ => .bind_any fun _ => .bind_any yields_result) h
    | [] | [_] | _ :: _ :: _ :: _ => cases h
  · exact inRange_of_yields (.bind_any fun _ => .bind_any yields_result) h
  · match vs with
    | [_, _] => exact inRange_of_yields (yields_div s.call) h
    | [] | [_] | _ :: _ :: _ :: _ => cases h

/-- No sum, difference, product or quotient that a routine returns is an integer beyond 64
bits, whatever the arguments; a remainder is only if both integers are. -/
theorem integer_results_inRange (s : Surroundings) (vs : List Value) (n : Int) :
    (∀ routine ∈ [StandardRoutine.add, .sub, .mul, .div], routine.run s vs = .ok (.integer n) →
      Number.inRange n = true) ∧
    (mod.run s vs = .ok (.integer n) → Number.inRange n = false →
      ∃ a b, vs = [.integer a, .integer b] ∧ n = remainder a b ∧
        Number.inRange a = false ∧ Number.inRange b = false) := by
  refine ⟨fun routine hroutine h => inRange_of_run hroutine h, fun h hbeyond => ?_⟩
  obtain ⟨a, b, rfl, hb, rfl⟩ := run_mod_integer h
  have hne : Number.inRange (remainder a b) ≠ true := by simp [hbeyond]
  refine ⟨a, b, rfl, rfl, ?_, ?_⟩
  · exact Bool.eq_false_iff.mpr fun ha => hne (inRange_remainder ha b)
  · exact Bool.eq_false_iff.mpr fun hb' => hne (inRange_remainder_of_divisor a hb' hb)

/-- The sum of an integer beyond the range and one within it, and what is left of a power
of two beyond the range by a greater one. -/
theorem integer_results_inRange_power :
    (StandardRoutine.add.run ⟨0, 0⟩ [.integer (Number.least - 1), .integer 1] =
        .ok (.integer Number.least) ∧
      Number.inRange Number.least = true) ∧
    (mod.run ⟨0, 1⟩ [.integer 18446744073709551616, .integer 36893488147419103232] =
        .ok (.integer 18446744073709551616) ∧
      ∃ a b : Int, 18446744073709551616 = remainder a b ∧
        Number.inRange a = false ∧ Number.inRange b = false) := by
  have hsum : StandardRoutine.add.run ⟨0, 0⟩ [.integer (Number.least - 1), .integer 1] =
      .ok (.integer Number.least) := rfl
  have hmod : mod.run ⟨0, 1⟩ [.integer 18446744073709551616, .integer 36893488147419103232] =
      .ok (.integer 18446744073709551616) := run_mod ⟨0, 1⟩ 18446744073709551616 (by decide)
  have hrange := (integer_results_inRange _ _ _).1 .add List.mem_cons_self hsum
  obtain ⟨a, b, -, hbeyond⟩ := (integer_results_inRange _ _ _).2 hmod (by decide)
  exact ⟨⟨hsum, hrange⟩, hmod, a, b, hbeyond⟩

/-- The remainder of two integers beyond the range that is beyond it. -/
theorem run_mod_beyond :
    mod.run ⟨0, 0⟩ [.integer 18446744073709551616, .integer 36893488147419103232] =
        .ok (.integer 18446744073709551616) ∧
      Number.inRange 18446744073709551616 = false :=
  ⟨run_mod ⟨0, 0⟩ 18446744073709551616 (by decide), by decide⟩

end

end Inlay
