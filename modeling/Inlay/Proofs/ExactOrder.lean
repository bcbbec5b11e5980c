import Mathlib.Algebra.Order.Field.Basic
import Mathlib.Data.List.Lex
import Mathlib.Data.Rat.Cast.Order
import Mathlib.Order.WithBot
import Mathlib.Tactic.Positivity
import Inlay.Proofs.Division
import Inlay.Proofs.Equality

/-!
# The order of numbers and strings

Comparisons put all numbers on one line, integers and floating-point numbers mixed. A
number stands there for its exact value (`Value.extended?`), a rational or an end of the
line, so no integer is rounded to meet a floating-point number; if one were, two
neighbours beyond `2 ^ 53` could both be equal to a third number. Strings are ordered by
their code points.

On either set a comparison asks for the order of two ranks, and that is all that a strict
total order with its equality takes (`RankedBy.totallyOrdered`). What is neither two
numbers nor two strings has no order: every comparison of it fails
(`comparisons_order`).
-/

namespace Inlay

/-- A rational number or an end of the line. -/
abbrev Extended := WithBot (WithTop ℚ)

namespace Extended

/-- A rational number between the ends. -/
def rational (q : ℚ) : Extended := WithBot.some (WithTop.some q)

theorem rational_lt_iff (q r : ℚ) : rational q < rational r ↔ q < r :=
  WithBot.coe_lt_coe.trans WithTop.coe_lt_coe

theorem bot_lt_rational (q : ℚ) : ⊥ < rational q := WithBot.bot_lt_coe _

theorem rational_lt_top (q : ℚ) : rational q < ⊤ :=
  WithBot.coe_lt_coe.mpr (WithTop.coe_lt_top q)

end Extended

/-! ## Exact values -/

namespace Binary64

/-- The exact value of a number; a not-a-number has none. -/
def extended? : Binary64 → Option Extended
  | nan _ => none
  | infinite negative => some (if negative then ⊥ else ⊤)
  | finite negative significand place _ =>
    let size : ℚ := significand * 2 ^ ((place : ℤ) - 1074)
    some (.rational (if negative then -size else size))

theorem unitsPerOne_eq : (unitsPerOne : ℚ) = 2 ^ (1074 : ℤ) := by
  change (unitsPerOne : ℚ) = 2 ^ ((1074 : ℕ) : ℤ)
  unfold unitsPerOne
  -- a closed power of this size is better not looked at
  generalize 1074 = exponent
  rw [zpow_natCast, Nat.pow_eq, Nat.cast_pow, Nat.cast_ofNat]

theorem unitsPerOne_pos : (0 : ℚ) < unitsPerOne := by
  rw [unitsPerOne_eq]
  exact zpow_pos two_pos _

/-- A size counted in units. -/
theorem size_eq_units (significand place : ℕ) :
    (significand : ℚ) * 2 ^ ((place : ℤ) - 1074) =
      (significand * Nat.pow 2 place : ℕ) / unitsPerOne := by
  rw [unitsPerOne_eq, zpow_sub₀ two_ne_zero, zpow_natCast, mul_div_assoc', Nat.pow_eq,
    Nat.cast_mul, Nat.cast_pow, Nat.cast_ofNat]

namespace Position

/-- The number that stands at a place of the line. -/
def exact : Position → Extended
  | below => ⊥
  | .at units => .rational (units / unitsPerOne)
  | above => ⊤

theorem exact_below : below.exact = ⊥ := rfl

theorem exact_at (units : ℤ) : (Position.at units).exact = .rational (units / unitsPerOne) := rfl

theorem exact_above : above.exact = ⊤ := rfl

theorem exact_ofInt (n : Int) : (ofInt n).exact = .rational n := by
  rw [ofInt, exact_at, Int.cast_mul, Int.cast_natCast,
    mul_div_cancel_right₀ _ unitsPerOne_pos.ne']

theorem lt_iff_exact_lt (p q : Position) : p.lt q = true ↔ p.exact < q.exact := by
  have hunits (m n : ℤ) : (m / unitsPerOne : ℚ) < n / unitsPerOne ↔ m < n := by
    rw [div_lt_div_iff_of_pos_right unitsPerOne_pos, Int.cast_lt]
  cases p <;> cases q <;>
    simp only [lt, exact_below, exact_at, exact_above, Extended.rational_lt_iff, hunits,
      Extended.bot_lt_rational, Extended.rational_lt_top, bot_lt_top, not_lt_bot, not_top_lt,
      lt_self_iff_false, decide_eq_true_eq, Bool.false_eq_true]

theorem exact_injective : Function.Injective exact := by
  intro p q h
  -- places with the same number are not before one another
  have hlt (p q : Position) (h : p.exact = q.exact) : p.lt q = false := by
    rw [Bool.eq_false_iff, Ne, lt_iff_exact_lt, h]
    exact lt_irrefl _
  have hbefore := hlt p q h
  have hafter := hlt q p h.symm
  cases p <;> cases q <;> simp_all [lt]
  omega

end Position

theorem extended?_eq (x : Binary64) : x.extended? = x.position?.map Position.exact := by
  cases x with
  | nan payload => rfl
  | infinite negative => cases negative <;> rfl
  | finite negative significand place fits =>
      rw [extended?, position?, size_eq_units]
      cases negative
      · simp only [Option.map_some, Position.exact_at, Bool.false_eq_true, if_false,
          Int.cast_natCast]
      · simp only [Option.map_some, Position.exact_at, if_true, Int.cast_neg, Int.cast_natCast,
          neg_div]

end Binary64

namespace Value

/-- The exact value of a number: an integer is its own. -/
def extended? : Value → Option Extended
  | integer n => some (.rational n)
  | float x => x.extended?
  | _ => none

/-- The numbers on the line: all integers, and all floating-point numbers that are
numbers. -/
def onLine : Set Value := Set.range integer ∪ float '' {x | x.isNaN = false}

/-- The exact value of a number on the line. -/
def exact (v : Value) : Extended := v.extended?.getD ⊥

theorem exists_place {v : Value} (h : v ∈ onLine) :
    ∃ p, Comparison.place? v = some (some p) ∧ v.exact = p.exact := by
  rcases h with ⟨n, rfl⟩ | ⟨x, hx, rfl⟩
  · exact ⟨.ofInt n, rfl, (Binary64.Position.exact_ofInt n).symm⟩
  · obtain ⟨p, hp⟩ := Binary64.exists_position hx
    exact ⟨p, congrArg some hp, by simp [exact, extended?, Binary64.extended?_eq, hp]⟩

def strings : Set Value := Set.range string

/-- Two values that a comparison takes: two numbers, which may be not-a-numbers, or two
strings. -/
def Orderable (a b : Value) : Prop :=
  (a.isNumber = true ∧ b.isNumber = true) ∨ (a ∈ strings ∧ b ∈ strings)

end Value

def Text.codePoints (s : String) : List ℕ := s.toList.map Char.toNat

theorem Text.lt_iff_codePoints_lt (s t : String) : s < t ↔ codePoints s < codePoints t := by
  rw [String.lt_iff, codePoints, codePoints]
  generalize s.toList = cs
  generalize t.toList = ds
  induction cs generalizing ds with
  | nil => cases ds <;> simp
  | cons c cs ih =>
      cases ds with
      | nil => simp
      | cons d ds =>
          have hless : c < d ↔ c.toNat < d.toNat := Iff.rfl
          have hsame : c = d ↔ c.toNat = d.toNat := Char.toNat_inj.symm
          rw [List.map_cons, List.map_cons, List.cons_lt_cons_iff, List.cons_lt_cons_iff, ih,
            hless, hsame]

theorem Text.codePoints_injective : Function.Injective codePoints := by
  intro s t h
  have hchars : s.toList = t.toList := List.map_injective_iff.mpr (fun _ _ => Char.toNat_inj.mp) h
  exact String.toList_inj.mp hchars

/-! ## Comparisons -/

section

open StandardRoutine

variable {s : Surroundings}

/-- The comparisons put a set of values in a strict total order, and the equality that
templates see is the equality of this order. -/
structure TotallyOrdered (s : Surroundings) (S : Set Value) : Prop where
  trichotomy : ∀ a ∈ S, ∀ b ∈ S, ∃ below same above : Bool,
    lt.run s [a, b] = .ok (.boolean below) ∧ eq.run s [a, b] = .ok (.boolean same) ∧
      lt.run s [b, a] = .ok (.boolean above) ∧ [below, same, above].count true = 1
  transitive : ∀ a ∈ S, ∀ b ∈ S, ∀ c ∈ S, lt.run s [a, b] = .ok (.boolean true) →
    lt.run s [b, c] = .ok (.boolean true) → lt.run s [a, c] = .ok (.boolean true)
  orEqual : ∀ a ∈ S, ∀ b ∈ S,
    le.run s [a, b] = do or.run s [← lt.run s [a, b], ← eq.run s [a, b]]
  reversed : ∀ a ∈ S, ∀ b ∈ S, gt.run s [a, b] = lt.run s [b, a]
  reversedOrEqual : ∀ a ∈ S, ∀ b ∈ S, ge.run s [a, b] = le.run s [b, a]

/-- The comparisons on a set of values are those of their ranks. -/
structure RankedBy {α : Type} [LinearOrder α] (s : Surroundings) (rank : Value → α)
    (S : Set Value) : Prop where
  run_lt : ∀ a ∈ S, ∀ b ∈ S, lt.run s [a, b] = .ok (.boolean (decide (rank a < rank b)))
  run_eq : ∀ a ∈ S, ∀ b ∈ S, eq.run s [a, b] = .ok (.boolean (decide (rank a = rank b)))
  run_le : ∀ a ∈ S, ∀ b ∈ S, le.run s [a, b] = .ok (.boolean (decide (rank a ≤ rank b)))
  run_gt : ∀ a ∈ S, ∀ b ∈ S, gt.run s [a, b] = .ok (.boolean (decide (rank b < rank a)))
  run_ge : ∀ a ∈ S, ∀ b ∈ S, ge.run s [a, b] = .ok (.boolean (decide (rank b ≤ rank a)))

/-- A linear order of ranks is all that it takes. -/
theorem RankedBy.totallyOrdered {α : Type} [LinearOrder α] {rank : Value → α} {S : Set Value}
    (h : RankedBy s rank S) : TotallyOrdered s S where
  trichotomy a ha b hb := by
    refine ⟨_, _, _, h.run_lt a ha b hb, h.run_eq a ha b hb, h.run_lt b hb a ha, ?_⟩
    rcases lt_trichotomy (rank a) (rank b) with hlt | heq | hgt
    · simp [hlt, hlt.ne, hlt.not_gt]
    · simp [heq]
    · simp [hgt, hgt.ne', hgt.not_gt]
  transitive a ha b hb c hc := by
    rw [h.run_lt a ha b hb, h.run_lt b hb c hc, h.run_lt a ha c hc]
    simp only [Except.ok.injEq, Value.boolean.injEq, decide_eq_true_eq]
    exact lt_trans
  orEqual a ha b hb := by
    have hor (x y : Bool) : or.run s [.boolean x, .boolean y] = .ok (.boolean (x || y)) := by
      cases x <;> cases y <;> rfl
    calc le.run s [a, b]
        = .ok (.boolean (decide (rank a < rank b) || decide (rank a = rank b))) := by
          rw [h.run_le a ha b hb, ← Bool.decide_or]
          simp only [le_iff_lt_or_eq]
      _ = or.run s [.boolean (rank a < rank b), .boolean (rank a = rank b)] := (hor _ _).symm
      _ = (do or.run s [← lt.run s [a, b], ← eq.run s [a, b]]) := by
          rw [h.run_lt a ha b hb, h.run_eq a ha b hb]
          rfl
  reversed a ha b hb := by rw [h.run_gt a ha b hb, h.run_lt b hb a ha]
  reversedOrEqual a ha b hb := by rw [h.run_ge a ha b hb, h.run_le b hb a ha]

/-- What a comparison makes of two values has their ranks. -/
structure Comparison.Ordered.Agrees {α : Type} [LinearOrder α] (o : Ordered) (p q : α) : Prop where
  lt : o.lt = decide (p < q)
  eq : o.eq = decide (p = q)
  swap_lt : o.swap.lt = decide (q < p)

namespace Comparison.Ordered.Agrees

variable {α : Type} [LinearOrder α] {o : Comparison.Ordered} {p q : α} (h : o.Agrees p q)
include h

theorem le : (o.lt || o.eq) = decide (p ≤ q) := by
  rw [h.lt, h.eq, ← Bool.decide_or, decide_eq_decide, le_iff_lt_or_eq]

theorem ge : (o.swap.lt || o.eq) = decide (q ≤ p) := by
  rw [h.swap_lt, h.eq, ← Bool.decide_or, decide_eq_decide, le_iff_lt_or_eq, eq_comm (a := q)]

end Comparison.Ordered.Agrees

theorem rankedBy_of_agrees {α : Type} [LinearOrder α] {rank : Value → α} {S : Set Value}
    (hordered : ∀ a ∈ S, ∀ b ∈ S,
      ∃ o, Comparison.ordered a b = .ok o ∧ o.Agrees (rank a) (rank b))
    (hequal : ∀ a ∈ S, ∀ b ∈ S, a.equal b = true ↔ rank a = rank b) :
    RankedBy s rank S where
  run_lt a ha b hb := by
    obtain ⟨o, ho, hagrees⟩ := hordered a ha b hb
    rw [← hagrees.lt]
    exact congrArg (Except.map fun o => Value.boolean o.lt) ho
  run_eq a ha b hb := by
    have hsame : a.equal b = decide (rank a = rank b) :=
      Bool.eq_iff_iff.mpr ((hequal a ha b hb).trans decide_eq_true_iff.symm)
    rw [← hsame]
    rfl
  run_le a ha b hb := by
    obtain ⟨o, ho, hagrees⟩ := hordered a ha b hb
    rw [← hagrees.le]
    exact congrArg (Except.map fun o => Value.boolean (o.lt || o.eq)) ho
  run_gt a ha b hb := by
    obtain ⟨o, ho, hagrees⟩ := hordered a ha b hb
    rw [← hagrees.swap_lt]
    exact congrArg (Except.map fun o => Value.boolean o.swap.lt) ho
  run_ge a ha b hb := by
    obtain ⟨o, ho, hagrees⟩ := hordered a ha b hb
    rw [← hagrees.ge]
    exact congrArg (Except.map fun o => Value.boolean (o.swap.lt || o.eq)) ho

theorem ordered_places {a b : Value} {p q : Option Binary64.Position}
    (ha : Comparison.place? a = some p) (hb : Comparison.place? b = some q) :
    Comparison.ordered a b = .ok (.places p q) := by
  cases a <;> cases ha <;> cases b <;> cases hb <;> rfl

theorem numbers_ranked : RankedBy s Value.exact Value.onLine := by
  refine rankedBy_of_agrees (fun a ha b hb => ?_) fun a ha b hb => ?_
  all_goals
    obtain ⟨p, hp, hexact⟩ := Value.exists_place ha
    obtain ⟨q, hq, hexact'⟩ := Value.exists_place hb
    rw [hexact, hexact']
  · refine ⟨_, ordered_places hp hq, ?_, ?_, ?_⟩
    · exact Bool.eq_iff_iff.mpr ((p.lt_iff_exact_lt q).trans decide_eq_true_iff.symm)
    · simp [Comparison.Ordered.eq, Binary64.Position.exact_injective.eq_iff, beq_eq_decide]
    · exact Bool.eq_iff_iff.mpr ((q.lt_iff_exact_lt p).trans decide_eq_true_iff.symm)
  · rw [Value.equal_number (.inl (Value.isNumber_of_place? hp)), hp, hq,
      Binary64.Position.exact_injective.eq_iff]
    simp [eq_comm]

def Value.codePoints : Value → List ℕ
  | .string t => Text.codePoints t
  | _ => []

theorem strings_ranked : RankedBy s Value.codePoints Value.strings := by
  refine rankedBy_of_agrees ?_ ?_
  all_goals
    rintro _ ⟨t, rfl⟩ _ ⟨u, rfl⟩
  · refine ⟨.strings t u, rfl, ?_, ?_, ?_⟩
    · exact decide_eq_decide.mpr (Text.lt_iff_codePoints_lt t u)
    · simp [Comparison.Ordered.eq, Value.codePoints, Text.codePoints_injective.eq_iff,
        beq_eq_decide]
    · exact decide_eq_decide.mpr (Text.lt_iff_codePoints_lt u t)
  · rw [Value.equal_plain (.inl rfl)]
    simp [Value.sameKey, Value.codePoints, Text.codePoints_injective.eq_iff]

theorem Outcome.failsAs_map {α β : Type} (f : α → β) (x : Outcome α) (c : FaultClass) :
    FailsAs (x.map f : Outcome β) c ↔ x.FailsAs c := by
  cases x <;> simp [Except.map]

theorem ordered_failsAs {a b : Value} :
    (Comparison.ordered a b).FailsAs .wrongType ↔ ¬ a.Orderable b := by
  cases a <;> cases b <;>
    simp [Comparison.ordered, Comparison.place?, Value.Orderable, Value.isNumber, Value.strings,
      CallFault.class?]

theorem comparison_failsAs {routine : StandardRoutine} (h : routine ∈ [lt, le, gt, ge])
    {a b : Value} : (routine.run s [a, b]).FailsAs .wrongType ↔ ¬ a.Orderable b := by
  rw [← ordered_failsAs]
  simp only [List.mem_cons, List.not_mem_nil, or_false] at h
  rcases h with rfl | rfl | rfl | rfl <;> exact Outcome.failsAs_map _ _ _

/-- The comparisons order the numbers, of either kind and by their exact values, and the
strings, by their code points; each of the two orders is strict and total with the equality
of templates as its own. Of no other two values does a comparison say anything. -/
theorem comparisons_order (s : Surroundings) :
    TotallyOrdered s Value.onLine ∧ RankedBy s Value.exact Value.onLine ∧
    TotallyOrdered s Value.strings ∧ RankedBy s Value.codePoints Value.strings ∧
    ∀ routine ∈ [lt, le, gt, ge], ∀ a b : Value,
      (routine.run s [a, b]).FailsAs .wrongType ↔ ¬ a.Orderable b :=
  ⟨numbers_ranked.totallyOrdered, numbers_ranked, strings_ranked.totallyOrdered, strings_ranked,
    fun _ h _ _ => comparison_failsAs h⟩

/-- A floating-point number equals one of two neighbouring integers that would both be
rounded to it, and is below the other one. -/
theorem comparisons_order_neighbours :
    let x : Value := .float (.finite false 0x10000000000000 1075 (by decide))
    let n : Value := .integer 0x20000000000000
    let m : Value := .integer 0x20000000000001
    x ∈ Value.onLine ∧ n ∈ Value.onLine ∧ m ∈ Value.onLine ∧
      eq.run ⟨0, 0⟩ [n, x] = .ok (.boolean true) ∧ lt.run ⟨0, 0⟩ [x, m] = .ok (.boolean true) ∧
      (∃ below above : Bool, lt.run ⟨0, 0⟩ [n, x] = .ok (.boolean below) ∧
        lt.run ⟨0, 0⟩ [x, n] = .ok (.boolean above) ∧ [below, true, above].count true = 1) ∧
      (gt.run ⟨0, 0⟩ [m, .boolean true]).FailsAs .wrongType := by
  intro x n m
  have hx : x ∈ Value.onLine := .inr ⟨_, rfl, rfl⟩
  have hn : n ∈ Value.onLine := .inl ⟨_, rfl⟩
  have hm : m ∈ Value.onLine := .inl ⟨_, rfl⟩
  have hexact : x.exact = .rational 0x20000000000000 := by
    simp [x, Value.exact, Value.extended?, Binary64.extended?]
    norm_num
  obtain ⟨horder, hranked, -, -, hfails⟩ := comparisons_order ⟨0, 0⟩
  have heq : eq.run ⟨0, 0⟩ [n, x] = .ok (.boolean true) := by
    have hsame : n.exact = x.exact := by
      rw [hexact]
      simp [n, Value.exact, Value.extended?]
    rw [hranked.run_eq n hn x hx, decide_eq_true hsame]
  have hlt : lt.run ⟨0, 0⟩ [x, m] = .ok (.boolean true) := by
    have hbelow : x.exact < m.exact := by
      rw [hexact]
      exact (Extended.rational_lt_iff _ _).mpr (by norm_num)
    rw [hranked.run_lt x hx m hm, decide_eq_true hbelow]
  obtain ⟨below, same, above, hbelow, hsame, habove, hcount⟩ := horder.trichotomy n hn x hx
  cases heq.symm.trans hsame
  exact ⟨hx, hn, hm, heq, hlt, ⟨below, above, hbelow, habove, hcount⟩,
    (hfails gt (by decide) m _).mpr (by simp [Value.Orderable, Value.isNumber, Value.strings])⟩

end

end Inlay
