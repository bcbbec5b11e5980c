import Inlay.Library
import Inlay.Proofs.Likeness

/-!
# The library cannot tell likenesses apart

Given related arguments, every routine of the library fails with the same fault
or returns related values (`Likeness.run`). What a routine takes out of its
arguments is either a plain datum, and then the same on both sides, or the
elements of a list or dictionary, and then related on both sides. A number may
be a not-a-number of either run; the ones that a routine makes are related
because the calls that made them are.
-/

namespace Inlay

/-! ## Outcomes -/

/-- Outcomes of two runs: related values, or the same fault. -/
inductive OutcomeRel {α β : Type} (P : α → β → Prop) : Outcome α → Outcome β → Prop
  | ok {a : α} {b : β} (h : P a b) : OutcomeRel P (.ok a) (.ok b)
  | error (f : CallFault) : OutcomeRel P (.error f) (.error f)

namespace OutcomeRel

variable {α β γ δ : Type} {P : α → β → Prop} {Q : γ → δ → Prop}

theorem bind {x : Outcome α} {y : Outcome β} {f : α → Outcome γ} {g : β → Outcome δ}
    (h : OutcomeRel P x y) (hfg : ∀ a b, P a b → OutcomeRel Q (f a) (g b)) :
    OutcomeRel Q (x >>= f) (y >>= g) := by
  cases h with
  | ok hab => exact hfg _ _ hab
  | error fault => exact .error fault

theorem imp {P' : α → β → Prop} {x : Outcome α} {y : Outcome β} (h : OutcomeRel P x y)
    (hP : ∀ a b, P a b → P' a b) : OutcomeRel P' x y := by
  cases h with
  | ok hab => exact .ok (hP _ _ hab)
  | error fault => exact .error fault

theorem map {x : Outcome α} {y : Outcome β} {f : α → γ} {g : β → δ} (h : OutcomeRel P x y)
    (hfg : ∀ a b, P a b → Q (f a) (g b)) : OutcomeRel Q (x.map f) (y.map g) := by
  cases h with
  | ok hab => exact .ok (hfg _ _ hab)
  | error fault => exact .error fault

/-- The same outcome on both sides, used in the same way. -/
theorem bind_self {x : Outcome α} {f : α → Outcome γ} {g : α → Outcome δ}
    (hfg : ∀ a, OutcomeRel Q (f a) (g a)) : OutcomeRel Q (x >>= f) (x >>= g) := by
  cases x with
  | ok a => exact hfg a
  | error fault => exact .error fault

theorem ite_self {c : Prop} [Decidable c] {x : Outcome γ} {x' : Outcome δ} {y : Outcome γ}
    {y' : Outcome δ} (hx : OutcomeRel Q x x') (hy : OutcomeRel Q y y') :
    OutcomeRel Q (if c then x else y) (if c then x' else y') := by
  split
  · exact hx
  · exact hy

theorem map_self {x : Outcome α} {f : α → γ} {g : α → δ} (hfg : ∀ a, Q (f a) (g a)) :
    OutcomeRel Q (x.map f) (x.map g) := by
  cases x with
  | ok a => exact .ok (hfg a)
  | error fault => exact .error fault

end OutcomeRel

theorem OutcomeRel.mapM {α β γ δ : Type} {P : α → β → Prop} {Q : γ → δ → Prop}
    {f : α → Outcome γ} {g : β → Outcome δ} {xs : List α} {ys : List β}
    (h : List.Forall₂ P xs ys) (hfg : ∀ x y, P x y → OutcomeRel Q (f x) (g y)) :
    OutcomeRel (List.Forall₂ Q) (xs.mapM f) (ys.mapM g) := by
  induction h with
  | nil => exact .ok .nil
  | cons hxy _ ih =>
      rw [List.mapM_cons, List.mapM_cons]
      exact (hfg _ _ hxy).bind fun _ _ hab => ih.bind fun _ _ habs => .ok (.cons hab habs)

theorem OutcomeRel.foldlM {α β γ δ : Type} {P : α → β → Prop} {Q : γ → δ → Prop}
    {f : γ → α → Outcome γ} {g : δ → β → Outcome δ} {xs : List α} {ys : List β}
    (h : List.Forall₂ P xs ys)
    (hfg : ∀ c d x y, Q c d → P x y → OutcomeRel Q (f c x) (g d y)) {c : γ} {d : δ}
    (hcd : Q c d) : OutcomeRel Q (xs.foldlM f c) (ys.foldlM g d) := by
  induction h generalizing c d with
  | nil => exact .ok hcd
  | cons hxy _ ih =>
      rw [List.foldlM_cons, List.foldlM_cons]
      exact (hfg _ _ _ _ hcd hxy).bind fun _ _ hab => ih hab

theorem mapM_eq_of_forall₂ {α β γ ε : Type} {R : α → β → Prop} {f : α → Except ε γ}
    {g : β → Except ε γ} {xs : List α} {ys : List β} (h : List.Forall₂ R xs ys)
    (hfg : ∀ x y, R x y → f x = g y) : xs.mapM f = ys.mapM g := by
  induction h with
  | nil => rfl
  | cons hxy _ ih => rw [List.mapM_cons, List.mapM_cons, hfg _ _ hxy, ih]

/-- Numbers that are related as values. -/
inductive NumberRel (R : Value → Value → Prop) : Number → Number → Prop
  | integer (n : Int) : NumberRel R (.integer n) (.integer n)
  | float {x y : Binary64} (h : R (.float x) (.float y)) : NumberRel R (.float x) (.float y)

/-- What two calls may look at besides related arguments: the same time, and
numbers of their own that mark related not-a-numbers. -/
structure Surroundings.Related (R : Value → Value → Prop) (s s' : Surroundings) : Prop where
  clock : s.clock = s'.clock
  fresh : R (.float (.nan s.call)) (.float (.nan s'.call))

namespace Likeness

variable {R : Value → Value → Prop} (hR : Likeness R) {u u' v v' w w' : Value}
include hR

/-! ## Arguments -/

theorem argument_string (h : R v w) : Argument.string v = Argument.string w := by
  cases hR.alike h <;> rfl

theorem argument_boolean (h : R v w) : Argument.boolean v = Argument.boolean w := by
  cases hR.alike h <;> rfl

theorem argument_integer (h : R v w) : Argument.integer v = Argument.integer w := by
  cases hR.alike h <;> rfl

theorem argument_number (h : R v w) :
    OutcomeRel (NumberRel R) (Number.ofArgument v) (Number.ofArgument w) := by
  cases hR.alike h with
  | integer n => exact .ok (.integer n)
  | float _ => exact .ok (.float h)
  | _ => exact .error _

theorem argument_list (h : R v w) :
    OutcomeRel (List.Forall₂ R) (Argument.list v) (Argument.list w) := by
  cases hR.alike h with
  | list _ hvs => exact .ok hvs
  | _ => exact .error _

theorem argument_dictionary (h : R v w) :
    OutcomeRel (List.Forall₂ (EntryRel R)) (Argument.dictionary v) (Argument.dictionary w) := by
  cases hR.alike h with
  | dictionary _ hes => exact .ok hes
  | _ => exact .error _

/-! ## Comparison and logic -/

theorem place? (h : R v w) : Comparison.place? v = Comparison.place? w := by
  cases hR.alike h with
  | float hxy => exact congrArg some hxy.position?
  | _ => rfl

/-- Two values that are no strings are ordered by their places. -/
theorem orderedPlaces (h : R v v') (h' : R w w') :
    (match Comparison.place? v, Comparison.place? w with
      | some a, some b => .ok (.places a b)
      | _, _ => .error (.notComparable v.typeName w.typeName) : Outcome Comparison.Ordered) =
    match Comparison.place? v', Comparison.place? w' with
      | some a, some b => .ok (.places a b)
      | _, _ => .error (.notComparable v'.typeName w'.typeName) := by
  rw [hR.place? h, hR.place? h', hR.typeName h, hR.typeName h']

theorem ordered (h : R v v') (h' : R w w') :
    Comparison.ordered v w = Comparison.ordered v' w' := by
  have hplaces := hR.orderedPlaces h h'
  cases hR.alike h <;> cases hR.alike h' <;> first | rfl | exact hplaces

theorem eq (h : R v v') (h' : R w w') : OutcomeRel R (Comparison.eq v w) (Comparison.eq v' w') := by
  unfold Comparison.eq
  rw [hR.equal h h']
  exact .ok (hR.boolean _)

theorem ne (h : R v v') (h' : R w w') : OutcomeRel R (Comparison.ne v w) (Comparison.ne v' w') := by
  unfold Comparison.ne
  rw [hR.equal h h']
  exact .ok (hR.boolean _)

/-- The four comparisons differ only in what they make of the ordered pair. -/
theorem compare (test : Comparison.Ordered → Bool) (h : R v v') (h' : R w w') :
    OutcomeRel R ((Comparison.ordered v w).map fun o => .boolean (test o))
      ((Comparison.ordered v' w').map fun o => .boolean (test o)) := by
  rw [hR.ordered h h']
  exact .map_self fun o => hR.boolean (test o)

theorem not (h : R v w) : OutcomeRel R (Logic.not v) (Logic.not w) := by
  unfold Logic.not
  rw [hR.argument_boolean h]
  exact .map_self fun b => hR.boolean !b

theorem booleans {vs ws : List Value} (h : List.Forall₂ R vs ws) (test : List Bool → Bool) :
    OutcomeRel R ((vs.mapM Argument.boolean).map fun bs => .boolean (test bs))
      ((ws.mapM Argument.boolean).map fun bs => .boolean (test bs)) := by
  rw [mapM_eq_of_forall₂ h fun _ _ hvw => hR.argument_boolean hvw]
  exact .map_self fun bs => hR.boolean (test bs)

/-! ## Arithmetic -/

variable {p q : Nat} (hpq : R (.float (.nan p)) (.float (.nan q)))

/-- What an operation makes is related, once the not-a-numbers are that it
makes. -/
theorem made (hpq : R (.float (.nan p)) (.float (.nan q))) {x y : Binary64}
    (h : Binary64.Made p q x y) : R (.float x) (.float y) := by
  cases h with
  | number h => exact hR.float h
  | nan => exact hpq

theorem like {x y : Binary64} (h : R (.float x) (.float y)) : x.Like y := by
  cases hR.alike h with
  | float h => exact h

theorem result {m n : Number} (h : NumberRel R m n) : OutcomeRel R m.result n.result := by
  cases h with
  | integer n => exact .map_self fun n => hR.integer n
  | float h => exact .ok h

theorem isZero {m n : Number} (h : NumberRel R m n) : m.isZero = n.isZero := by
  cases h with
  | integer => rfl
  | float h => exact (hR.like h).isZero

omit hR in
theorem integerToFloat_number (n : Int) :
    OutcomeRel (fun x y => x = y ∧ x.isNaN = false) (Number.integerToFloat n)
      (Number.integerToFloat n) := by
  unfold Number.integerToFloat
  dsimp only
  split
  · next h => exact .ok ⟨rfl, Binary64.isNaN_of_isFinite h⟩
  · exact .error _

theorem toFloat_like {m n : Number} (h : NumberRel R m n) :
    OutcomeRel Binary64.Like m.toFloat n.toFloat := by
  cases h with
  | float h => exact .ok (hR.like h)
  | integer n =>
      exact (integerToFloat_number n).imp fun x y hxy => hxy.1 ▸ .number hxy.2

theorem numbers {vs ws : List Value} (h : List.Forall₂ R vs ws) :
    OutcomeRel (List.Forall₂ (NumberRel R)) (Arithmetic.numbers vs) (Arithmetic.numbers ws) :=
  .mapM h fun _ _ hvw => hR.argument_number hvw

include hpq

/-- An operation that makes related numbers of like ones. -/
theorem combine {onIntegers : Int → Int → Int} {f g : Binary64 → Binary64 → Binary64}
    (hfg : ∀ {x x' y y' : Binary64}, x.Like x' → y.Like y' → Binary64.Made p q (f x y) (g x' y'))
    {m m' n n' : Number} (h : NumberRel R m m') (h' : NumberRel R n n') :
    OutcomeRel (NumberRel R) (Number.combine onIntegers f m n)
      (Number.combine onIntegers g m' n') := by
  have hfloats : ∀ {m m' n n' : Number}, NumberRel R m m' → NumberRel R n n' →
      OutcomeRel (NumberRel R)
        (do return Number.float (f (← m.toFloat) (← n.toFloat)))
        (do return Number.float (g (← m'.toFloat) (← n'.toFloat))) := fun h h' =>
    (hR.toFloat_like h).bind fun _ _ hx => (hR.toFloat_like h').bind fun _ _ hy =>
      .ok (.float (hR.made hpq (hfg hx hy)))
  cases h with
  | integer a =>
      cases h' with
      | integer b => exact .ok (.integer _)
      | float h' => exact hfloats (.integer a) (.float h')
  | float h => exact hfloats (.float h) h'

theorem add {vs ws : List Value} (h : List.Forall₂ R vs ws) :
    OutcomeRel R (Arithmetic.add p vs) (Arithmetic.add q ws) :=
  (hR.numbers h).bind fun _ _ hxs =>
    (OutcomeRel.foldlM hxs (fun _ _ _ _ hc hx => hR.combine hpq Binary64.add_made hc hx)
      (.integer 0)).bind fun _ _ hsum => hR.result hsum

theorem mul {vs ws : List Value} (h : List.Forall₂ R vs ws) :
    OutcomeRel R (Arithmetic.mul p vs) (Arithmetic.mul q ws) :=
  (hR.numbers h).bind fun _ _ hxs =>
    (OutcomeRel.foldlM hxs (fun _ _ _ _ hc hx => hR.combine hpq Binary64.mul_made hc hx)
      (.integer 1)).bind fun _ _ hproduct => hR.result hproduct

theorem sub (h : R v v') (h' : R w w') :
    OutcomeRel R (Arithmetic.sub p v w) (Arithmetic.sub q v' w') :=
  (hR.argument_number h).bind fun _ _ hm => (hR.argument_number h').bind fun _ _ hn =>
    (hR.combine hpq Binary64.sub_made hm hn).bind fun _ _ hd => hR.result hd

theorem div (h : R v v') (h' : R w w') :
    OutcomeRel R (Arithmetic.div p v w) (Arithmetic.div q v' w') := by
  have hfloats : ∀ {m m' n n' : Number}, NumberRel R m m' → NumberRel R n n' →
      OutcomeRel R
        (if n.isZero then .error .floatDivisionByZero
          else do return Value.float ((← m.toFloat).div p (← n.toFloat)))
        (if n'.isZero then .error .floatDivisionByZero
          else do return Value.float ((← m'.toFloat).div q (← n'.toFloat))) := by
    intro m m' n n' hm hn
    rw [hR.isZero hn]
    exact .ite_self (.error _) ((hR.toFloat_like hm).bind fun _ _ hx =>
      (hR.toFloat_like hn).bind fun _ _ hy => .ok (hR.made hpq (Binary64.div_made hx hy)))
  refine (hR.argument_number h).bind fun m m' hm => (hR.argument_number h').bind fun n n' hn => ?_
  cases hm with
  | integer a =>
      cases hn with
      | integer b =>
          exact .ite_self (.error _) (.map_self fun n => hR.integer n)
      | float hn => exact hfloats (.integer a) (.float hn)
  | float hm => exact hfloats (.float hm) hn

/-- The remainders of two numbers of which one is a float. -/
theorem remainder {m m' n n' : Number} (hm : NumberRel R m m') (hn : NumberRel R n n') :
    OutcomeRel R
      (do match (← m.toFloat).remainder? p (← n.toFloat) with
        | some r => .ok (.float r)
        | none => .error .mathDomain)
      (do match (← m'.toFloat).remainder? q (← n'.toFloat) with
        | some r => .ok (.float r)
        | none => .error .mathDomain) := by
  refine (hR.toFloat_like hm).bind fun x x' hx => (hR.toFloat_like hn).bind fun y y' hy => ?_
  have hrest := Binary64.remainder?_made (p := p) (q := q) hx hy
  generalize Binary64.remainder? p x y = r at hrest ⊢
  generalize Binary64.remainder? q x' y' = r' at hrest ⊢
  cases hrest with
  | none => exact .error _
  | some hr => exact .ok (hR.made hpq hr)

theorem mod (h : R v v') (h' : R w w') :
    OutcomeRel R (Arithmetic.mod p v w) (Arithmetic.mod q v' w') := by
  refine (hR.argument_number h).bind fun m m' hm => (hR.argument_number h').bind fun n n' hn => ?_
  rw [hR.isZero hn]
  refine .ite_self (.error _) ?_
  cases hm with
  | integer a =>
      cases hn with
      | integer b => exact .ok (hR.integer _)
      | float hn => exact hR.remainder hpq (.integer a) (.float hn)
  | float hm => exact hR.remainder hpq (.float hm) hn

omit hpq

/-! ## Strings -/

theorem concat {vs ws : List Value} (h : List.Forall₂ R vs ws) :
    OutcomeRel R (Strings.concat vs) (Strings.concat ws) := by
  unfold Strings.concat
  rw [hR.texts h]
  exact .ok (hR.string _)

/-- The routines that make a string of a string. -/
theorem mapString (f : String → String) (h : R v w) :
    OutcomeRel R ((Argument.string v).map fun s => .string (f s))
      ((Argument.string w).map fun s => .string (f s)) := by
  rw [hR.argument_string h]
  exact .map_self fun s => hR.string (f s)

theorem replace (h : R u u') (h' : R v v') (h'' : R w w') :
    OutcomeRel R (Strings.replace u v w) (Strings.replace u' v' w') := by
  unfold Strings.replace
  rw [hR.argument_string h, hR.argument_string h', hR.argument_string h'']
  exact .bind_self fun a => .bind_self fun b => .bind_self fun c => .ok (hR.string _)

theorem matchesPattern (h : R v v') (h' : R w w') :
    OutcomeRel R (Strings.matchesPattern v w) (Strings.matchesPattern v' w') := by
  unfold Strings.matchesPattern
  rw [hR.argument_string h, hR.argument_string h']
  refine .bind_self fun text => .bind_self fun source => ?_
  split
  · exact .ok (hR.boolean _)
  · exact .error _

theorem split (h : R v v') (h' : R w w') :
    OutcomeRel R (Strings.split v w) (Strings.split v' w') := by
  unfold Strings.split
  rw [hR.argument_string h, hR.argument_string h']
  refine .bind_self fun text => .bind_self fun sep => ?_
  split
  · exact .error _
  · refine .ok (hR.list ?_)
    exact List.forall₂_same.mpr fun s hs => by
      obtain ⟨piece, -, rfl⟩ := List.mem_map.mp hs
      exact hR.string _

theorem join (h : R v v') (h' : R w w') :
    OutcomeRel R (Strings.join v w) (Strings.join v' w') := by
  unfold Strings.join
  rw [hR.argument_string h']
  refine (hR.argument_list h).bind fun vs ws hvs => .bind_self fun sep => ?_
  rw [hR.texts hvs]
  exact .ok (hR.string _)

theorem formatArgument (h : R v w) :
    (Strings.formatArgument v).Like (Strings.formatArgument w) := by
  have htext := hR.text h
  cases hR.alike h with
  | integer n => exact .integer n
  | float hxy => exact .float hxy
  | _ => exact .text htext

theorem format {vs ws : List Value} (h : R v v') (hvs : List.Forall₂ R vs ws) :
    OutcomeRel R (Strings.format v vs) (Strings.format v' ws) := by
  have harguments : List.Forall₂ Format.Argument.Like (vs.map Strings.formatArgument)
      (ws.map Strings.formatArgument) :=
    List.forall₂_map_left_iff.mpr (List.forall₂_map_right_iff.mpr
      (hvs.imp fun _ _ hvw => hR.formatArgument hvw))
  unfold Strings.format
  rw [hR.argument_string h]
  refine .bind_self fun text => ?_
  rw [Format.fill_like harguments]
  cases Format.fill text (ws.map Strings.formatArgument) with
  | ok s => exact .ok (hR.string s)
  | error fault => exact .error _

/-! ## Lists and dictionaries -/

theorem size (h : R v w) : OutcomeRel R (Collections.size v) (Collections.size w) := by
  unfold Collections.size
  cases hR.alike h with
  | list _ hvs =>
      dsimp only
      rw [hvs.length_eq]
      exact .ok (hR.integer _)
  | dictionary _ hes =>
      dsimp only
      rw [hes.length_eq]
      exact .ok (hR.integer _)
  | string s => exact .ok (hR.integer _)
  | _ => exact .error _

theorem head (h : R v w) : OutcomeRel R (Collections.head v) (Collections.head w) := by
  unfold Collections.head
  refine (hR.argument_list h).bind fun vs ws hvs => ?_
  cases hvs with
  | nil => exact .error _
  | cons hv _ => exact .ok hv

theorem tail (h : R v w) : OutcomeRel R (Collections.tail v) (Collections.tail w) :=
  (hR.argument_list h).map fun _ _ hvs => hR.list (List.forall₂_drop 1 hvs)

theorem keys (h : R v w) : OutcomeRel R (Collections.keys v) (Collections.keys w) := by
  refine (hR.argument_dictionary h).map fun _ _ hes => hR.list ?_
  exact List.forall₂_map_left_iff.mpr (List.forall₂_map_right_iff.mpr
    (hes.imp fun _ _ hpq => hpq.1))

theorem values (h : R v w) : OutcomeRel R (Collections.values v) (Collections.values w) := by
  refine (hR.argument_dictionary h).map fun _ _ hes => hR.list ?_
  exact List.forall₂_map_left_iff.mpr (List.forall₂_map_right_iff.mpr
    (hes.imp fun _ _ hpq => hpq.2))

theorem contains (h : R v v') (h' : R w w') :
    OutcomeRel R (Collections.contains v w) (Collections.contains v' w') := by
  have hany : ∀ {vs vs' : List Value}, List.Forall₂ R vs vs' →
      (vs.any fun e => e.equal w) = vs'.any fun e => e.equal w' := by
    intro vs vs' hvs
    induction hvs with
    | nil => rfl
    | cons hv _ ih => rw [List.any_cons, List.any_cons, hR.equal hv h', ih]
  unfold Collections.contains
  cases hR.alike h with
  | list _ hvs =>
      dsimp only
      rw [hany hvs]
      exact .ok (hR.boolean _)
  | dictionary o hes =>
      rcases hR.lookup o hes h' with ⟨fault, hv, hw⟩ | ⟨found, found', hv, hw, hrel⟩
      · simp only [hv, hw]
        exact .error _
      · simp only [hv, hw]
        cases hrel with
        | none => exact .ok (hR.boolean _)
        | some _ => exact .ok (hR.boolean _)
  | string s =>
      dsimp only
      rw [hR.argument_string h']
      exact .map_self fun part => hR.boolean _
  | _ => exact .error _

theorem integersFrom (start stop : Int) :
    List.Forall₂ R (Collections.integersFrom start stop) (Collections.integersFrom start stop) :=
  List.forall₂_same.mpr fun v hv => by
    obtain ⟨i, -, rfl⟩ := List.mem_map.mp hv
    exact hR.integer _

/-- What `range` returns depends on its bounds alone, of which an absent second
one is none. -/
theorem range_eq {vs ws : List Value} (h : List.Forall₂ R vs ws) :
    Collections.range vs = Collections.range ws := by
  have hbounds : ∀ {vs ws : List Value}, List.Forall₂ R vs ws →
      vs.mapM Argument.integer = ws.mapM Argument.integer := fun h =>
    mapM_eq_of_forall₂ h fun _ _ hvw => hR.argument_integer hvw
  cases h with
  | nil => rfl
  | cons h1 h =>
      cases h with
      | nil => exact congrArg (· >>= _) (hbounds (.cons h1 .nil))
      | cons h2 h =>
          cases h with
          | cons h3 h =>
              have hall := hbounds (.cons h1 (.cons h2 (.cons h3 h)))
              cases hR.alike h2 with
              | foreign f => cases f <;> exact congrArg (· >>= _) hall
              | _ => exact congrArg (· >>= _) hall
          | nil =>
              have hone := hbounds (.cons h1 .nil)
              have htwo := hbounds (.cons h1 (.cons h2 .nil))
              cases hR.alike h2 with
              | foreign f =>
                  cases f with
                  | absent => exact congrArg (· >>= _) hone
                  | set => exact congrArg (· >>= _) htwo
              | _ => exact congrArg (· >>= _) htwo

theorem range {vs ws : List Value} (h : List.Forall₂ R vs ws) :
    OutcomeRel R (Collections.range vs) (Collections.range ws) := by
  rw [hR.range_eq h]
  unfold Collections.range
  exact .bind_self fun bounds => .ite_self (.error _) (.ok (hR.list (hR.integersFrom _ _)))

/-! ## Conversion and times -/

theorem bounded (n : Int) :
    OutcomeRel R ((Number.bounded n).map Value.integer) ((Number.bounded n).map Value.integer) :=
  .map_self fun n => hR.integer n

theorem toInteger (h : R v w) :
    OutcomeRel R (Conversion.toInteger v) (Conversion.toInteger w) := by
  cases hR.alike h with
  | integer n => exact .ok (hR.integer n)
  | float hxy =>
      cases hxy with
      | nan => exact .error _
      | number hx =>
          rename_i x
          clear hx
          cases x with
          | nan | infinite => exact .error _
          | finite => exact hR.bounded _
  | string s =>
      unfold Conversion.toInteger
      dsimp only
      split
      · exact hR.bounded _
      · exact .error _
      · exact .error _
  | _ => exact .error _

theorem toFloat {p q : Nat} (hpq : R (.float (.nan p)) (.float (.nan q))) (h : R v w) :
    OutcomeRel R (Conversion.toFloat p v) (Conversion.toFloat q w) := by
  cases hR.alike h with
  | integer n =>
      exact (integerToFloat_number n).map fun x y hxy => hxy.1 ▸ hR.float hxy.2
  | float _ => exact .ok h
  | string s =>
      have hread := Binary64.readFloat?_made p q (Text.trim s.toList)
      unfold Conversion.toFloat
      dsimp only
      generalize Numeral.readFloat? p _ = x at hread ⊢
      generalize Numeral.readFloat? q _ = y at hread ⊢
      cases hread with
      | none => exact .error _
      | some hxy => exact .ok (hR.made hpq hxy)
  | _ => exact .error _

theorem toString (h : R v w) :
    OutcomeRel R (Conversion.toString v) (Conversion.toString w) := by
  unfold Conversion.toString
  rw [hR.text h]
  exact .ok (hR.string _)

/-- A moment is shown as a string, or there is none to show. -/
theorem shownMoment (text : String) (moment : Except Time.Fault Time.Moment) :
    OutcomeRel R
      (match moment with
        | .ok m => return .string (Time.Pattern.fill text m)
        | .error fault => throw (.time fault))
      (match moment with
        | .ok m => return .string (Time.Pattern.fill text m)
        | .error fault => throw (.time fault)) := by
  cases moment with
  | ok m => exact .ok (hR.string _)
  | error fault => exact .error _

theorem formatTime (h : R u u') (h' : R v v') (h'' : R w w') :
    OutcomeRel R (Times.format u v w) (Times.format u' v' w') := by
  unfold Times.format
  rw [hR.argument_string h', hR.argument_string h'']
  cases hR.alike h with
  | integer n =>
      exact .bind_self fun i => .bind_self fun text => .bind_self fun key => hR.shownMoment text _
  | float hxy =>
      dsimp only
      rw [Time.Instant.ofFloatMillis_like hxy]
      exact .bind_self fun i => .bind_self fun text => .bind_self fun key => hR.shownMoment text _
  | _ => exact .error _

/-! ## All routines -/

omit hR in
/-- A list of arguments that a routine has no rule for. -/
theorem refused {vs ws : List Value} (h : List.Forall₂ R vs ws) :
    OutcomeRel R (.error (.expected "other arguments" (ToString.toString vs.length)))
      (.error (.expected "other arguments" (ToString.toString ws.length))) := by
  rw [h.length_eq]
  exact .error _

variable {s s' : Surroundings}

omit hR in
/-- Routines of one argument. -/
theorem unary {routine : StandardRoutine}
    (h0 : ∀ s, routine.run s [] = .error (.expected "other arguments" (ToString.toString 0)))
    (h2 : ∀ s u v vs, routine.run s (u :: v :: vs) =
      .error (.expected "other arguments" (ToString.toString (u :: v :: vs).length)))
    (hf : ∀ {v w}, R v w → OutcomeRel R (routine.run s [v]) (routine.run s' [w]))
    {vs ws : List Value} (h : List.Forall₂ R vs ws) :
    OutcomeRel R (routine.run s vs) (routine.run s' ws) := by
  cases h with
  | nil =>
      rw [h0, h0]
      exact .error _
  | cons hv h =>
      cases h with
      | nil => exact hf hv
      | cons hw h =>
          rw [h2, h2]
          exact refused (.cons hv (.cons hw h))

omit hR in
/-- Routines of two arguments. -/
theorem binary {routine : StandardRoutine}
    (h0 : ∀ s, routine.run s [] = .error (.expected "other arguments" (ToString.toString 0)))
    (h1 : ∀ s v, routine.run s [v] = .error (.expected "other arguments" (ToString.toString 1)))
    (h3 : ∀ s u v w vs, routine.run s (u :: v :: w :: vs) =
      .error (.expected "other arguments" (ToString.toString (u :: v :: w :: vs).length)))
    (hf : ∀ {v v' w w'}, R v v' → R w w' →
      OutcomeRel R (routine.run s [v, w]) (routine.run s' [v', w']))
    {vs ws : List Value} (h : List.Forall₂ R vs ws) :
    OutcomeRel R (routine.run s vs) (routine.run s' ws) := by
  cases h with
  | nil =>
      rw [h0, h0]
      exact .error _
  | cons hu h =>
      cases h with
      | nil =>
          rw [h1, h1]
          exact .error _
      | cons hv h =>
          cases h with
          | nil => exact hf hu hv
          | cons hw h =>
              rw [h3, h3]
              exact refused (.cons hu (.cons hv (.cons hw h)))

theorem run_replace {vs ws : List Value} (h : List.Forall₂ R vs ws) :
    OutcomeRel R (StandardRoutine.replace.run s vs) (StandardRoutine.replace.run s' ws) := by
  rcases h with _ | ⟨h1, _ | ⟨h2, _ | ⟨h3, _ | ⟨h4, h⟩⟩⟩⟩
  · exact .error _
  · exact .error _
  · exact .error _
  · exact hR.replace h1 h2 h3
  · exact refused (.cons h1 (.cons h2 (.cons h3 (.cons h4 h))))

theorem run_formatTime {vs ws : List Value} (h : List.Forall₂ R vs ws) :
    OutcomeRel R (StandardRoutine.formatTime.run s vs) (StandardRoutine.formatTime.run s' ws) := by
  rcases h with _ | ⟨h1, _ | ⟨h2, _ | ⟨h3, _ | ⟨h4, h⟩⟩⟩⟩
  · exact .error _
  · exact .error _
  · exact hR.formatTime h1 h2 (hR.string _)
  · exact hR.formatTime h1 h2 h3
  · exact refused (.cons h1 (.cons h2 (.cons h3 (.cons h4 h))))

/-- Every routine of the library takes related arguments to related outcomes. -/
theorem run (hs : s.Related R s') (routine : StandardRoutine)
    {vs ws : List Value} (h : List.Forall₂ R vs ws) :
    OutcomeRel R (routine.run s vs) (routine.run s' ws) := by
  cases routine with
  | eq => exact binary (fun _ => rfl) (fun _ _ => rfl) (fun _ _ _ _ _ => rfl) hR.eq h
  | ne => exact binary (fun _ => rfl) (fun _ _ => rfl) (fun _ _ _ _ _ => rfl) hR.ne h
  | lt => exact binary (fun _ => rfl) (fun _ _ => rfl) (fun _ _ _ _ _ => rfl) (hR.compare _) h
  | le => exact binary (fun _ => rfl) (fun _ _ => rfl) (fun _ _ _ _ _ => rfl) (hR.compare _) h
  | gt => exact binary (fun _ => rfl) (fun _ _ => rfl) (fun _ _ _ _ _ => rfl) (hR.compare _) h
  | ge => exact binary (fun _ => rfl) (fun _ _ => rfl) (fun _ _ _ _ _ => rfl) (hR.compare _) h
  | not => exact unary (fun _ => rfl) (fun _ _ _ _ => rfl) hR.not h
  | and => exact hR.booleans h fun bs => bs.all id
  | or => exact hR.booleans h fun bs => bs.any id
  | add => exact hR.add hs.fresh h
  | sub => exact binary (fun _ => rfl) (fun _ _ => rfl) (fun _ _ _ _ _ => rfl) (hR.sub hs.fresh) h
  | mul => exact hR.mul hs.fresh h
  | div => exact binary (fun _ => rfl) (fun _ _ => rfl) (fun _ _ _ _ _ => rfl) (hR.div hs.fresh) h
  | mod => exact binary (fun _ => rfl) (fun _ _ => rfl) (fun _ _ _ _ _ => rfl) (hR.mod hs.fresh) h
  | concat => exact hR.concat h
  | upper => exact unary (fun _ => rfl) (fun _ _ _ _ => rfl) (hR.mapString _) h
  | lower => exact unary (fun _ => rfl) (fun _ _ _ _ => rfl) (hR.mapString _) h
  | trim => exact unary (fun _ => rfl) (fun _ _ _ _ => rfl) (hR.mapString _) h
  | replace => exact hR.run_replace h
  | «matches» =>
      exact binary (fun _ => rfl) (fun _ _ => rfl) (fun _ _ _ _ _ => rfl) hR.matchesPattern h
  | split => exact binary (fun _ => rfl) (fun _ _ => rfl) (fun _ _ _ _ _ => rfl) hR.split h
  | join => exact binary (fun _ => rfl) (fun _ _ => rfl) (fun _ _ _ _ _ => rfl) hR.join h
  | format =>
      cases h with
      | nil => exact .error _
      | cons hv hvs => exact hR.format hv hvs
  | size => exact unary (fun _ => rfl) (fun _ _ _ _ => rfl) hR.size h
  | head => exact unary (fun _ => rfl) (fun _ _ _ _ => rfl) hR.head h
  | tail => exact unary (fun _ => rfl) (fun _ _ _ _ => rfl) hR.tail h
  | keys => exact unary (fun _ => rfl) (fun _ _ _ _ => rfl) hR.keys h
  | values => exact unary (fun _ => rfl) (fun _ _ _ _ => rfl) hR.values h
  | contains => exact binary (fun _ => rfl) (fun _ _ => rfl) (fun _ _ _ _ _ => rfl) hR.contains h
  | range => exact hR.range h
  | int => exact unary (fun _ => rfl) (fun _ _ _ _ => rfl) hR.toInteger h
  | float => exact unary (fun _ => rfl) (fun _ _ _ _ => rfl) (hR.toFloat hs.fresh) h
  | str => exact unary (fun _ => rfl) (fun _ _ _ _ => rfl) hR.toString h
  | now =>
      cases h with
      | nil => exact .ok (hs.clock ▸ hR.integer _)
      | cons hv hvs => exact refused (.cons hv hvs)
  | formatTime => exact hR.run_formatTime h

end Likeness

end Inlay
