import Inlay.Proofs.Visits

/-!
# Evaluation ends

The rules of evaluation, without a word on why they should ever come to an end:
`Visit.Ends` derives how an evaluation ends and in how many steps, where a step is
the evaluation of one expression, and a call of a closure has the evaluation of
its body for a premise. Nothing says that the body is smaller than the call; it
may come from the surroundings, and a closure may be handed to itself.

Every evaluation has a derivation, and with one outcome (`run_terminates`). The
induction goes along `Visit.Starts`: whatever an evaluation starts has fewer calls
left to make active or, with as many, is a part of its expression.
-/

namespace Inlay

open Evaluation

/-! ## Rules -/

namespace Evaluation

/-- What comes of the outcome of one evaluation when `next` is done with its
value. -/
def proceed {α β : Type} (outcome : Except Halt α × Record) (next : α → Evaluated β) :
    Except Halt β × Record :=
  match outcome with
  | (.ok a, r) => next a r
  | (.error h, r) => (.error h, r)

end Evaluation

namespace Visit

mutual

/-- An evaluation ends with an outcome after so many steps. -/
inductive Ends (context : Context) : Visit → Nat → Except Halt Value × Record → Prop
  | string {n : Nat} {s : Scope} {l : Location} {v : String} {r : Record} :
      Ends context ⟨n, s, .string l v, r⟩ 1 (.ok (.string v), r)
  | integer {n : Nat} {s : Scope} {l : Location} {i : Int} {r : Record} :
      Ends context ⟨n, s, .integer l i, r⟩ 1 (.ok (.integer i), r)
  | float {n : Nat} {s : Scope} {l : Location} {x : Binary64} {r : Record} :
      Ends context ⟨n, s, .float l x, r⟩ 1 (.ok (.float x), r)
  | name {n : Nat} {s : Scope} {l : Location} {w : String} {r : Record} :
      Ends context ⟨n, s, .name l w, r⟩ 1 (resolve context s l w r)
  | function {n : Nat} {s : Scope} {l : Location} {ps : List String} {b : Expr} {r : Record} :
      Ends context ⟨n, s, .function l ps b, r⟩ 1 (.ok (.closure ps b s.frames), r)
  | member {n i : Nat} {s : Scope} {l : Location} {b : Expr} {w : String} {r : Record}
      {x : Except Halt Value × Record} (hb : Ends context ⟨n, s, b, r⟩ i x) :
      Ends context ⟨n, s, .member l b w, r⟩ (i + 1) (proceed x fun v => member l v w)
  | baseFails {n i : Nat} {s : Scope} {l : Location} {b k : Expr} {r r' : Record} {h : Halt}
      (hb : Ends context ⟨n, s, b, r⟩ i (.error h, r')) :
      Ends context ⟨n, s, .index l b k, r⟩ (i + 1) (.error h, r')
  | index {n i j : Nat} {s : Scope} {l : Location} {b k : Expr} {r r' : Record} {v : Value}
      {x : Except Halt Value × Record} (hb : Ends context ⟨n, s, b, r⟩ i (.ok v, r'))
      (hk : Ends context ⟨n, s, k, r'⟩ j x) :
      Ends context ⟨n, s, .index l b k, r⟩ (i + j + 1) (proceed x fun u => index l v u)
  | calleeFails {n i : Nat} {s : Scope} {l : Location} {f : Expr} {es : List Expr}
      {r r' : Record} {h : Halt} (hf : Ends context ⟨n, s, f, r⟩ i (.error h, r')) :
      Ends context ⟨n, s, .call l f es, r⟩ (i + 1) (.error h, r')
  | argumentFails {n i j : Nat} {s : Scope} {l : Location} {f : Expr} {es : List Expr}
      {r r' r'' : Record} {v : Value} {h : Halt} (hf : Ends context ⟨n, s, f, r⟩ i (.ok v, r'))
      (hes : EndAll context n s es r' j (.error h, r'')) :
      Ends context ⟨n, s, .call l f es, r⟩ (i + j + 1) (.error h, r'')
  /-- The body of a closure is evaluated in the scope that the closure brings,
  with one call less to make active. -/
  | body {n i j k : Nat} {s : Scope} {l : Location} {f b : Expr} {es : List Expr}
      {ps : List String} {frames : List Frame} {r r' r'' : Record} {vs : List Value}
      {x : Except Halt Value × Record}
      (hf : Ends context ⟨n + 1, s, f, r⟩ i (.ok (.closure ps b frames), r'))
      (hes : EndAll context (n + 1) s es r' j (.ok vs, r'')) (hlength : vs.length = ps.length)
      (hb : Ends context ⟨n, (Scope.mk frames).child (ps.zip vs), b, r''⟩ k x) :
      Ends context ⟨n + 1, s, .call l f es, r⟩ (i + j + k + 1) x
  /-- All other calls evaluate nothing more. -/
  | call {n i j : Nat} {s : Scope} {l : Location} {f : Expr} {es : List Expr}
      {r r' r'' : Record} {v : Value} {vs : List Value}
      (hf : Ends context ⟨n, s, f, r⟩ i (.ok v, r'))
      (hes : EndAll context n s es r' j (.ok vs, r''))
      (hno : ∀ ps b frames, v = .closure ps b frames → vs.length = ps.length → n = 0) :
      Ends context ⟨n, s, .call l f es, r⟩ (i + j + 1) (callWithin context n l v vs r'')
  | conditionFails {n i : Nat} {s : Scope} {l : Location} {c a b : Expr} {r r' : Record}
      {h : Halt} (hc : Ends context ⟨n, s, c, r⟩ i (.error h, r')) :
      Ends context ⟨n, s, .choice l c a b, r⟩ (i + 1) (.error h, r')
  | yes {n i j : Nat} {s : Scope} {l : Location} {c a b : Expr} {r r' : Record}
      {x : Except Halt Value × Record}
      (hc : Ends context ⟨n, s, c, r⟩ i (.ok (.boolean true), r'))
      (ha : Ends context ⟨n, s, a, r'⟩ j x) :
      Ends context ⟨n, s, .choice l c a b, r⟩ (i + j + 1) x
  | no {n i j : Nat} {s : Scope} {l : Location} {c a b : Expr} {r r' : Record}
      {x : Except Halt Value × Record}
      (hc : Ends context ⟨n, s, c, r⟩ i (.ok (.boolean false), r'))
      (hb : Ends context ⟨n, s, b, r'⟩ j x) :
      Ends context ⟨n, s, .choice l c a b, r⟩ (i + j + 1) x
  | notBoolean {n i : Nat} {s : Scope} {l : Location} {c a b : Expr} {r r' : Record} {v : Value}
      (hc : Ends context ⟨n, s, c, r⟩ i (.ok v, r')) (hv : ∀ x, v ≠ .boolean x) :
      Ends context ⟨n, s, .choice l c a b, r⟩ (i + 1) (mismatch l (.condition v.typeName) r')
  | list {n i : Nat} {s : Scope} {l : Location} {es : List Expr} {r : Record}
      {x : Except Halt (List Value) × Record} (hes : EndAll context n s es r i x) :
      Ends context ⟨n, s, .list l es, r⟩ (i + 1) (proceed x fun vs => pure (.list .template vs))
  | dictionary {n i : Nat} {s : Scope} {l : Location} {es : List (Expr × Expr)} {r : Record}
      {x : Except Halt (List (Value × Value)) × Record} (hes : EndEntries context n s es r i x) :
      Ends context ⟨n, s, .dictionary l es, r⟩ (i + 1)
        (proceed x fun ps => pure (.dictionary .template (Dictionary.putAll Value.sameKey ps)))

/-- The evaluation of expressions from left to right ends. -/
inductive EndAll (context : Context) :
    Nat → Scope → List Expr → Record → Nat → Except Halt (List Value) × Record → Prop
  | nil {n : Nat} {s : Scope} {r : Record} : EndAll context n s [] r 0 (.ok [], r)
  | headFails {n i : Nat} {s : Scope} {e : Expr} {es : List Expr} {r r' : Record} {h : Halt}
      (he : Ends context ⟨n, s, e, r⟩ i (.error h, r')) :
      EndAll context n s (e :: es) r i (.error h, r')
  | cons {n i j : Nat} {s : Scope} {e : Expr} {es : List Expr} {r r' : Record} {v : Value}
      {x : Except Halt (List Value) × Record} (he : Ends context ⟨n, s, e, r⟩ i (.ok v, r'))
      (hes : EndAll context n s es r' j x) :
      EndAll context n s (e :: es) r (i + j) (proceed x fun vs => pure (v :: vs))

/-- The evaluation of entries from left to right ends. -/
inductive EndEntries (context : Context) :
    Nat → Scope → List (Expr × Expr) → Record → Nat →
      Except Halt (List (Value × Value)) × Record → Prop
  | nil {n : Nat} {s : Scope} {r : Record} : EndEntries context n s [] r 0 (.ok [], r)
  | keyFails {n i : Nat} {s : Scope} {key value : Expr} {es : List (Expr × Expr)}
      {r r' : Record} {h : Halt} (hk : Ends context ⟨n, s, key, r⟩ i (.error h, r')) :
      EndEntries context n s ((key, value) :: es) r i (.error h, r')
  | notAKey {n i : Nat} {s : Scope} {key value : Expr} {es : List (Expr × Expr)}
      {r r' : Record} {k : Value} (hk : Ends context ⟨n, s, key, r⟩ i (.ok k, r'))
      (hfault : k.keyFault? ≠ none) :
      EndEntries context n s ((key, value) :: es) r i
        (mismatch key.location (.notAKey k.typeName) r')
  | valueFails {n i j : Nat} {s : Scope} {key value : Expr} {es : List (Expr × Expr)}
      {r r' r'' : Record} {k : Value} {h : Halt} (hk : Ends context ⟨n, s, key, r⟩ i (.ok k, r'))
      (hfault : k.keyFault? = none) (hv : Ends context ⟨n, s, value, r'⟩ j (.error h, r'')) :
      EndEntries context n s ((key, value) :: es) r (i + j) (.error h, r'')
  | cons {n i j m : Nat} {s : Scope} {key value : Expr} {es : List (Expr × Expr)}
      {r r' r'' : Record} {k v : Value} {x : Except Halt (List (Value × Value)) × Record}
      (hk : Ends context ⟨n, s, key, r⟩ i (.ok k, r')) (hfault : k.keyFault? = none)
      (hv : Ends context ⟨n, s, value, r'⟩ j (.ok v, r''))
      (hes : EndEntries context n s es r'' m x) :
      EndEntries context n s ((key, value) :: es) r (i + j + m)
        (proceed x fun ps => pure ((k, v) :: ps))

end

end Visit

/-! ## What is derived -/

namespace Evaluation

theorem bind_eq_proceed {α β : Type} {m : Evaluated α} {x : Except Halt α × Record} {r : Record}
    (h : m r = x) (f : α → Evaluated β) : (m >>= f) r = proceed x f := by
  rw [← h, bind_eq]
  rfl

end Evaluation

namespace Visit

variable {context : Context}

mutual

/-- What is derived is what evaluation comes to. -/
theorem Ends.run_eq {x : Visit} {steps : Nat} {outcome : Except Halt Value × Record} :
    x.Ends context steps outcome → x.run context = outcome
  | .string | .integer | .float | .name | .function => rfl
  | .member hb => by
      rw [run, eval_member]
      exact bind_eq_proceed hb.run_eq _
  | .baseFails hb => by
      rw [run, eval_index]
      exact bind_of_error hb.run_eq
  | .index hb hk => by
      rw [run, eval_index]
      exact (bind_of_ok hb.run_eq).trans (bind_eq_proceed hk.run_eq _)
  | .calleeFails hf => by
      rw [run, eval_call]
      exact bind_of_error hf.run_eq
  | .argumentFails hf hes => by
      rw [run, eval_call]
      exact (bind_of_ok hf.run_eq).trans (bind_of_error hes.evalAll_eq)
  | .body hf hes hlength hb => by
      rw [run, eval_call]
      refine (bind_of_ok hf.run_eq).trans ((bind_of_ok hes.evalAll_eq).trans ?_)
      rw [callWithin_closure hlength]
      exact hb.run_eq
  | .call hf hes _ => by
      rw [run, eval_call]
      exact (bind_of_ok hf.run_eq).trans (bind_of_ok hes.evalAll_eq)
  | .conditionFails hc => by
      rw [run, eval_choice]
      exact bind_of_error hc.run_eq
  | .yes hc ha => by
      rw [run, eval_choice]
      exact (bind_of_ok hc.run_eq).trans ha.run_eq
  | .no hc hb => by
      rw [run, eval_choice]
      exact (bind_of_ok hc.run_eq).trans hb.run_eq
  | @Ends.notBoolean _ _ _ _ _ _ _ _ _ _ v hc hv => by
      rw [run, eval_choice]
      refine (bind_of_ok hc.run_eq).trans ?_
      cases v with
      | boolean x => exact absurd rfl (hv x)
      | _ => rfl
  | .list hes => by
      rw [run, eval_list]
      exact bind_eq_proceed hes.evalAll_eq _
  | .dictionary hes => by
      rw [run, eval_dictionary]
      exact bind_eq_proceed hes.evalEntries_eq _

theorem EndAll.evalAll_eq {n steps : Nat} {s : Scope} {es : List Expr} {r : Record}
    {outcome : Except Halt (List Value) × Record} :
    EndAll context n s es r steps outcome →
      evalAll context (callWithin context n) s es r = outcome
  | .nil => rfl
  | .headFails he => by
      rw [evalAll_cons]
      exact bind_of_error he.run_eq
  | .cons he hes => by
      rw [evalAll_cons]
      exact (bind_of_ok he.run_eq).trans (bind_eq_proceed hes.evalAll_eq _)

theorem EndEntries.evalEntries_eq {n steps : Nat} {s : Scope} {es : List (Expr × Expr)}
    {r : Record} {outcome : Except Halt (List (Value × Value)) × Record} :
    EndEntries context n s es r steps outcome →
      evalEntries context (callWithin context n) s es r = outcome
  | .nil => rfl
  | .keyFails hk => by
      rw [evalEntries_cons]
      exact bind_of_error hk.run_eq
  | .notAKey hk hfault => by
      rw [evalEntries_cons]
      refine (bind_of_ok hk.run_eq).trans ?_
      obtain ⟨fault, hsome⟩ := Option.ne_none_iff_exists'.mp hfault
      rw [hsome]
  | .valueFails hk hfault hv => by
      rw [evalEntries_cons]
      refine (bind_of_ok hk.run_eq).trans ?_
      rw [hfault]
      exact bind_of_error hv.run_eq
  | .cons hk hfault hv hes => by
      rw [evalEntries_cons]
      refine (bind_of_ok hk.run_eq).trans ?_
      rw [hfault]
      exact (bind_of_ok hv.run_eq).trans (bind_eq_proceed hes.evalEntries_eq _)

end

/-! ## Derivations for all evaluations -/

/-- An evaluation has a derivation of what it comes to. -/
def Finishes (context : Context) (x : Visit) : Prop := ∃ steps, x.Ends context steps (x.run context)

section

variable {n : Nat} {s : Scope} {r : Record}

/-- Elements that finish when they are come to finish together. -/
theorem endAll_of_comesTo {es : List Expr}
    (h : ∀ e r', ComesTo context (callWithin context n) s es r e r' →
      Finishes context ⟨n, s, e, r'⟩) :
    ∃ steps, EndAll context n s es r steps (evalAll context (callWithin context n) s es r) := by
  induction es generalizing r with
  | nil =>
      rw [evalAll_nil]
      exact ⟨0, .nil⟩
  | cons e es ih =>
      obtain ⟨i, he⟩ := h e r (comesTo_head e es r)
      rw [evalAll_cons]
      generalize hx : run context ⟨n, s, e, r⟩ = x at he
      obtain ⟨fault | v, r'⟩ := x
      · rw [bind_of_error hx]
        exact ⟨i, .headFails he⟩
      · obtain ⟨j, hes⟩ := ih fun e' r'' he' => h e' r'' (he'.cons hx)
        rw [bind_of_ok hx, bind_eq_proceed rfl]
        exact ⟨i + j, .cons he hes⟩

theorem endEntries_of_comesTo {es : List (Expr × Expr)}
    (hkeys : ∀ e r', ComesToKey context (callWithin context n) s es r e r' →
      Finishes context ⟨n, s, e, r'⟩)
    (hvalues : ∀ e r', ComesToValue context (callWithin context n) s es r e r' →
      Finishes context ⟨n, s, e, r'⟩) :
    ∃ steps, EndEntries context n s es r steps
      (evalEntries context (callWithin context n) s es r) := by
  induction es generalizing r with
  | nil =>
      rw [evalEntries_nil]
      exact ⟨0, .nil⟩
  | cons p es ih =>
      obtain ⟨key, value⟩ := p
      obtain ⟨i, hk⟩ := hkeys key r (comesToKey_head key value es r)
      rw [evalEntries_cons]
      generalize hx : run context ⟨n, s, key, r⟩ = x at hk
      obtain ⟨fault | k, r'⟩ := x
      · rw [bind_of_error hx]
        exact ⟨i, .keyFails hk⟩
      · rw [bind_of_ok hx]
        cases hfault : k.keyFault? with
        | some fault => exact ⟨i, .notAKey hk (by simp [hfault])⟩
        | none =>
            obtain ⟨j, hv⟩ := hvalues value r' (comesToValue_head hx hfault)
            generalize hy : run context ⟨n, s, value, r'⟩ = y at hv
            obtain ⟨fault | v, r''⟩ := y
            · dsimp only
              rw [bind_of_error hy]
              exact ⟨i + j, .valueFails hk hfault hv⟩
            · obtain ⟨m, hes⟩ := ih (fun e r he => hkeys e r (he.cons hx hfault hy))
                fun e r he => hvalues e r (he.cons hx hfault hy)
              dsimp only
              rw [bind_of_ok hy, bind_eq_proceed rfl]
              exact ⟨i + j + m, .cons hk hfault hv hes⟩

end

/-- An evaluation finishes if all that it starts does. -/
theorem finishes_of_starts {x : Visit}
    (h : ∀ y, Starts context x y → Finishes context y) : Finishes context x := by
  obtain ⟨n, s, e, r⟩ := x
  unfold Finishes run
  dsimp only
  cases e with
  | string l v =>
      rw [eval_string]
      exact ⟨1, .string⟩
  | integer l i =>
      rw [eval_integer]
      exact ⟨1, .integer⟩
  | float l x =>
      rw [eval_float]
      exact ⟨1, .float⟩
  | name l w =>
      rw [eval_name]
      exact ⟨1, .name⟩
  | function l ps b =>
      rw [eval_function]
      exact ⟨1, .function⟩
  | member l b w =>
      obtain ⟨i, hb⟩ := h _ .member
      rw [eval_member, bind_eq_proceed rfl]
      exact ⟨i + 1, .member hb⟩
  | index l b k =>
      obtain ⟨i, hb⟩ := h _ .base
      rw [eval_index]
      generalize hx : run context ⟨n, s, b, r⟩ = x at hb
      obtain ⟨fault | v, r'⟩ := x
      · rw [bind_of_error hx]
        exact ⟨i + 1, .baseFails hb⟩
      · obtain ⟨j, hk⟩ := h _ (.key hx)
        rw [bind_of_ok hx, bind_eq_proceed rfl]
        exact ⟨i + j + 1, .index hb hk⟩
  | call l f es =>
      obtain ⟨i, hf⟩ := h _ .callee
      rw [eval_call]
      generalize hx : run context ⟨n, s, f, r⟩ = x at hf
      obtain ⟨fault | v, r'⟩ := x
      · rw [bind_of_error hx]
        exact ⟨i + 1, .calleeFails hf⟩
      · obtain ⟨j, hes⟩ := endAll_of_comesTo fun e r'' he => h _ (.argument hx he)
        rw [bind_of_ok hx]
        generalize hy : evalAll context (callWithin context n) s es r' = y at hes
        obtain ⟨fault | vs, r''⟩ := y
        · rw [bind_of_error hy]
          exact ⟨i + j + 1, .argumentFails hf hes⟩
        · rw [bind_of_ok hy]
          -- only a closure with the right number of arguments has its body evaluated
          by_cases hbody : ∃ ps b frames left, v = .closure ps b frames ∧
              vs.length = ps.length ∧ n = left + 1
          · obtain ⟨ps, b, frames, left, rfl, hlength, rfl⟩ := hbody
            obtain ⟨k, hb⟩ := h _ (.body hx hy hlength)
            rw [callWithin_closure hlength]
            exact ⟨i + j + k + 1, .body hf hes hlength hb⟩
          · refine ⟨i + j + 1, .call hf hes fun ps b frames hv hlength => ?_⟩
            by_contra hn
            obtain ⟨left, hleft⟩ := Nat.exists_eq_succ_of_ne_zero hn
            exact hbody ⟨ps, b, frames, left, hv, hlength, hleft⟩
  | choice l c a b =>
      obtain ⟨i, hc⟩ := h _ .condition
      rw [eval_choice]
      generalize hx : run context ⟨n, s, c, r⟩ = x at hc
      obtain ⟨fault | v, r'⟩ := x
      · rw [bind_of_error hx]
        exact ⟨i + 1, .conditionFails hc⟩
      · rw [bind_of_ok hx]
        cases v with
        | boolean x =>
            cases x with
            | true =>
                obtain ⟨j, ha⟩ := h _ (.yes hx)
                exact ⟨i + j + 1, .yes hc ha⟩
            | false =>
                obtain ⟨j, hb⟩ := h _ (.no hx)
                exact ⟨i + j + 1, .no hc hb⟩
        | _ => exact ⟨i + 1, .notBoolean hc fun _ h => nomatch h⟩
  | list l es =>
      obtain ⟨i, hes⟩ := endAll_of_comesTo fun e r' he => h _ (.element he)
      rw [eval_list, bind_eq_proceed rfl]
      exact ⟨i + 1, .list hes⟩
  | dictionary l es =>
      obtain ⟨i, hes⟩ := endEntries_of_comesTo (fun e r' he => h _ (.entryKey he))
        fun e r' he => h _ (.entryValue he)
      rw [eval_dictionary, bind_eq_proceed rfl]
      exact ⟨i + 1, .dictionary hes⟩

/-- Every evaluation finishes. -/
theorem finishes (x : Visit) : Finishes context x := by
  induction x using (wellFounded_starts context).induction with
  | h x ih => exact finishes_of_starts ih

/-! ## What the steps are spent on -/

/-- So many steps are those of some evaluations, for each of which `P` holds. -/
inductive Spent (context : Context) (P : Visit → Prop) : Nat → Prop
  | none : Spent context P 0
  | cons {x : Visit} {i j : Nat} (hP : P x) (hx : x.Ends context i (x.run context))
      (h : Spent context P j) : Spent context P (i + j)

section

variable {P Q : Visit → Prop}

theorem Spent.one {x : Visit} {i : Nat} {outcome : Except Halt Value × Record} (hP : P x)
    (h : x.Ends context i outcome) : Spent context P i :=
  .cons hP (h.run_eq ▸ h) .none

theorem Spent.add {i j : Nat} (h : Spent context P i) (h' : Spent context P j) :
    Spent context P (i + j) := by
  induction h with
  | none => exact (Nat.zero_add j).symm ▸ h'
  | cons hP hx _ ih => exact Nat.add_assoc .. ▸ .cons hP hx ih

theorem Spent.imp {i : Nat} (h : Spent context P i) (hPQ : ∀ x, P x → Q x) :
    Spent context Q i := by
  induction h with
  | none => exact .none
  | cons hP hx _ ih => exact .cons (hPQ _ hP) hx ih

end

section

variable {n : Nat} {s : Scope}

theorem EndAll.spent {es : List Expr} {r : Record} {steps : Nat}
    {outcome : Except Halt (List Value) × Record} (h : EndAll context n s es r steps outcome)
    {P : Visit → Prop}
    (hP : ∀ e r', ComesTo context (callWithin context n) s es r e r' → P ⟨n, s, e, r'⟩) :
    Spent context P steps := by
  induction es generalizing r steps outcome with
  | nil =>
      cases h with
      | nil => exact .none
  | cons e es ih =>
      have hhead := hP e r (comesTo_head e es r)
      cases h with
      | headFails he => exact .one hhead he
      | cons he hes =>
          exact (Spent.one hhead he).add (ih hes fun e' r' h' => hP e' r' (h'.cons he.run_eq))

theorem EndEntries.spent {es : List (Expr × Expr)} {r : Record} {steps : Nat}
    {outcome : Except Halt (List (Value × Value)) × Record}
    (h : EndEntries context n s es r steps outcome) {P : Visit → Prop}
    (hkeys : ∀ e r', ComesToKey context (callWithin context n) s es r e r' → P ⟨n, s, e, r'⟩)
    (hvalues : ∀ e r', ComesToValue context (callWithin context n) s es r e r' →
      P ⟨n, s, e, r'⟩) : Spent context P steps := by
  induction es generalizing r steps outcome with
  | nil =>
      cases h with
      | nil => exact .none
  | cons p es ih =>
      obtain ⟨key, value⟩ := p
      have hkey := hkeys key r (comesToKey_head key value es r)
      cases h with
      | keyFails hk => exact .one hkey hk
      | notAKey hk _ => exact .one hkey hk
      | valueFails hk hfault hv =>
          exact (Spent.one hkey hk).add
            (.one (hvalues value _ (comesToValue_head hk.run_eq hfault)) hv)
      | cons hk hfault hv hes =>
          refine ((Spent.one hkey hk).add
            (.one (hvalues value _ (comesToValue_head hk.run_eq hfault)) hv)).add (ih hes ?_ ?_)
          · exact fun e r' h' => hkeys e r' (h'.cons hk.run_eq hfault hv.run_eq)
          · exact fun e r' h' => hvalues e r' (h'.cons hk.run_eq hfault hv.run_eq)

end

/-- An evaluation takes a step of its own and those of the evaluations that it
starts. -/
theorem Ends.spent {x : Visit} {steps : Nat} {outcome : Except Halt Value × Record}
    (h : x.Ends context steps outcome) :
    ∃ rest, steps = rest + 1 ∧ Spent context (Starts context x) rest := by
  cases h with
  | string | integer | float | name | function => exact ⟨0, rfl, .none⟩
  | member hb => exact ⟨_, rfl, .one .member hb⟩
  | baseFails hb => exact ⟨_, rfl, .one .base hb⟩
  | index hb hk => exact ⟨_, rfl, (Spent.one .base hb).add (.one (.key hb.run_eq) hk)⟩
  | calleeFails hf => exact ⟨_, rfl, .one .callee hf⟩
  | argumentFails hf hes =>
      exact ⟨_, rfl, (Spent.one .callee hf).add
        (hes.spent fun e r' h' => .argument hf.run_eq h')⟩
  | body hf hes hlength hb =>
      exact ⟨_, rfl, ((Spent.one .callee hf).add
        (hes.spent fun e r' h' => .argument hf.run_eq h')).add
          (.one (.body hf.run_eq hes.evalAll_eq hlength) hb)⟩
  | call hf hes _ =>
      exact ⟨_, rfl, (Spent.one .callee hf).add
        (hes.spent fun e r' h' => .argument hf.run_eq h')⟩
  | conditionFails hc => exact ⟨_, rfl, .one .condition hc⟩
  | yes hc ha => exact ⟨_, rfl, (Spent.one .condition hc).add (.one (.yes hc.run_eq) ha)⟩
  | no hc hb => exact ⟨_, rfl, (Spent.one .condition hc).add (.one (.no hc.run_eq) hb)⟩
  | notBoolean hc _ => exact ⟨_, rfl, .one .condition hc⟩
  | list hes => exact ⟨_, rfl, hes.spent fun e r' h' => .element h'⟩
  | dictionary hes =>
      exact ⟨_, rfl, hes.spent (fun e r' h' => .entryKey h') fun e r' h' => .entryValue h'⟩

/-! ## Runs -/

/-- How many calls are active in an evaluation. -/
def active (context : Context) (x : Visit) : Nat := context.limit - x.budget

/-- One evaluation is smaller than another: the limit leaves it fewer calls, or
as many and its expression is smaller. -/
def Smaller (context : Context) (y x : Visit) : Prop :=
  Prod.Lex (· < ·) (· < ·) (context.limit - y.active context, sizeOf y.expr)
    (context.limit - x.active context, sizeOf x.expr)

theorem Starts.smaller {x y : Visit} (h : Starts context x y)
    (hx : x.budget ≤ context.limit) : y.Smaller context x := by
  have hlex := Prod.lex_def.mp h.lex
  dsimp only at hlex
  refine Prod.lex_def.mpr ?_
  unfold active
  dsimp only
  omega

end Visit

namespace Template

variable {t : Template} {context : Context} {scope : Scope} {record : Record}

theorem Visits.budget_le {x : Visit} (h : t.Visits context scope record x) :
    x.budget ≤ context.limit := by
  induction h with
  | child => exact Nat.le_refl _
  | step _ hs ih =>
      have hlex := Prod.lex_def.mp hs.lex
      dsimp only at hlex
      omega

end Template

/-- A run of a template ends: there is a derivation, in so many steps, of a value
for each child or of a failure, and what is derived is what rendering comes to.
The same is true of each evaluation in the run; its steps are one of its own and
those of the evaluations that it starts, each of which is smaller. -/
theorem run_terminates (t : Template) (context : Context) (scope : Scope) (record : Record) :
    (∃ steps outcome,
      Visit.EndAll context context.limit scope t.children record steps outcome) ∧
    (∀ steps outcome,
      Visit.EndAll context context.limit scope t.children record steps outcome →
        t.render context scope record = settle context t.location
          (fun _ => proceed outcome fun vs =>
            pure ((vs.map Value.text).foldr (· ++ ·) "")) record) ∧
    ∀ x, t.Visits context scope record x → ∃ steps, x.Ends context (steps + 1) (x.run context) ∧
      Visit.Spent context (fun y => Visit.Starts context x y ∧ y.Smaller context x) steps := by
  refine ⟨?_, fun steps outcome h => ?_, fun x hx => ?_⟩
  · obtain ⟨steps, h⟩ : ∃ steps, Visit.EndAll context context.limit scope
        t.children record steps _ := Visit.endAll_of_comesTo fun _ _ _ => Visit.finishes _
    exact ⟨steps, _, h⟩
  · change settle context t.location (renderAll context scope t.children) record = _
    unfold settle
    rw [renderAll_eq, caller, bind_eq_proceed h.evalAll_eq]
  · obtain ⟨steps, h⟩ : Visit.Finishes context x := Visit.finishes x
    obtain ⟨rest, rfl, hspent⟩ := h.spent
    exact ⟨rest, h, hspent.imp fun y hy => ⟨hy, hy.smaller hx.budget_le⟩⟩

end Inlay
