import Mathlib.Data.Prod.Lex
import Mathlib.Logic.Relation
import Inlay.Proofs.EndlessStack
import Inlay.Proofs.Runs
import Inlay.Proofs.Trees

/-!
# The evaluations that make up a run

Rendering a template evaluates its children, evaluating an expression evaluates
its parts, and calling a closure evaluates its body. `Visit` is one such
evaluation, `Starts` says which ones another starts by itself, and
`Template.Visits` which ones a whole run is made of.

A failure goes through all evaluations around it unchanged (`run_of_starts`), so
the failure of any visited evaluation is that of the rendering
(`renderAll_of_visits`). In turn, whenever rendering fails, some visited
evaluation fails by itself, while all that it starts succeeds
(`exists_raises_of_renderAll`).
-/

namespace Inlay

namespace Evaluation

/-! ## Sequences -/

section

variable {α β : Type} {m : Evaluated α} {f : α → Evaluated β} {r r' : Record}

theorem bind_of_ok {a : α} (h : m r = (.ok a, r')) : (m >>= f) r = f a r' := by
  rw [bind_eq, h]

theorem bind_of_error {e : Halt} (h : m r = (.error e, r')) : (m >>= f) r = (.error e, r') := by
  rw [bind_eq, h]

theorem ok_of_bind {b : β} {r'' : Record} (h : (m >>= f) r = (.ok b, r'')) :
    ∃ a r', m r = (.ok a, r') ∧ f a r' = (.ok b, r'') := by
  rw [bind_eq] at h
  generalize hm : m r = x at h
  obtain ⟨a | a, r'⟩ := x
  · cases h
  · exact ⟨a, r', rfl, h⟩

end

/-! ## Elements and entries -/

section

variable {context : Context} {call : Caller} {s : Scope}

theorem evalAll_append {before : List Expr} {vs : List Value} {r r' : Record}
    (h : evalAll context call s before r = (.ok vs, r')) (rest : List Expr) :
    evalAll context call s (before ++ rest) r =
      (evalAll context call s rest >>= fun ws => pure (vs ++ ws)) r' := by
  induction before generalizing vs r with
  | nil =>
      rw [evalAll_nil] at h
      cases h
      exact (bind_pure (m := Evaluated) _).symm ▸ rfl
  | cons e before ih =>
      rw [evalAll_cons] at h
      obtain ⟨v, r₁, hv, h⟩ := ok_of_bind h
      obtain ⟨us, r₂, hus, h⟩ := ok_of_bind h
      cases h
      rw [List.cons_append, evalAll_cons, bind_of_ok hv, bind_eq, ih hus, bind_eq, bind_eq]
      generalize evalAll context call s rest _ = x
      obtain ⟨x | x, r''⟩ := x <;> rfl

theorem evalEntries_append {before : List (Expr × Expr)} {ps : List (Value × Value)}
    {r r' : Record} (h : evalEntries context call s before r = (.ok ps, r'))
    (rest : List (Expr × Expr)) :
    evalEntries context call s (before ++ rest) r =
      (evalEntries context call s rest >>= fun qs => pure (ps ++ qs)) r' := by
  induction before generalizing ps r with
  | nil =>
      rw [evalEntries_nil] at h
      cases h
      exact (bind_pure (m := Evaluated) _).symm ▸ rfl
  | cons p before ih =>
      obtain ⟨key, value⟩ := p
      rw [evalEntries_cons] at h
      obtain ⟨k, r₁, hk, h⟩ := ok_of_bind h
      cases hfault : k.keyFault? with
      | some fault =>
          rw [hfault] at h
          cases h
      | none =>
          rw [hfault] at h
          obtain ⟨v, r₂, hv, h⟩ := ok_of_bind h
          obtain ⟨us, r₃, hus, h⟩ := ok_of_bind h
          cases h
          rw [List.cons_append, evalEntries_cons, bind_of_ok hk, hfault]
          dsimp only
          rw [bind_of_ok hv, bind_eq, ih hus, bind_eq, bind_eq]
          generalize evalEntries context call s rest _ = x
          obtain ⟨x | x, r''⟩ := x <;> rfl

/-- The evaluation of some expressions, begun with the record `r`, comes to its
element `e` with the record `r'`. -/
def ComesTo (context : Context) (call : Caller) (s : Scope) (es : List Expr) (r : Record)
    (e : Expr) (r' : Record) : Prop :=
  ∃ before after vs, es = before ++ e :: after ∧
    evalAll context call s before r = (.ok vs, r')

def ComesToKey (context : Context) (call : Caller) (s : Scope) (es : List (Expr × Expr))
    (r : Record) (e : Expr) (r' : Record) : Prop :=
  ∃ before value after ps, es = before ++ (e, value) :: after ∧
    evalEntries context call s before r = (.ok ps, r')

def ComesToValue (context : Context) (call : Caller) (s : Scope) (es : List (Expr × Expr))
    (r : Record) (e : Expr) (r' : Record) : Prop :=
  ∃ before key after ps r₁ k, es = before ++ (key, e) :: after ∧
    evalEntries context call s before r = (.ok ps, r₁) ∧
    eval context call s key r₁ = (.ok k, r') ∧ k.keyFault? = none

theorem ComesTo.mem {es : List Expr} {r r' : Record} {e : Expr}
    (h : ComesTo context call s es r e r') : e ∈ es := by
  obtain ⟨before, after, vs, rfl, -⟩ := h
  simp

theorem ComesToKey.mem {es : List (Expr × Expr)} {r r' : Record} {e : Expr}
    (h : ComesToKey context call s es r e r') : ∃ p ∈ es, p.1 = e := by
  obtain ⟨before, value, after, ps, rfl, -⟩ := h
  exact ⟨(e, value), by simp, rfl⟩

theorem ComesToValue.mem {es : List (Expr × Expr)} {r r' : Record} {e : Expr}
    (h : ComesToValue context call s es r e r') : ∃ p ∈ es, p.2 = e := by
  obtain ⟨before, key, after, ps, r₁, k, rfl, -⟩ := h
  exact ⟨(key, e), by simp, rfl⟩

theorem ComesTo.error {es : List Expr} {r r' r'' : Record} {e : Expr} {h : Halt}
    (hto : ComesTo context call s es r e r') (he : eval context call s e r' = (.error h, r'')) :
    evalAll context call s es r = (.error h, r'') := by
  obtain ⟨before, after, vs, rfl, hvs⟩ := hto
  rw [evalAll_append hvs, evalAll_cons]
  exact bind_of_error (bind_of_error he)

theorem ComesToKey.error {es : List (Expr × Expr)} {r r' r'' : Record} {e : Expr} {h : Halt}
    (hto : ComesToKey context call s es r e r')
    (he : eval context call s e r' = (.error h, r'')) :
    evalEntries context call s es r = (.error h, r'') := by
  obtain ⟨before, value, after, ps, rfl, hps⟩ := hto
  rw [evalEntries_append hps, evalEntries_cons]
  exact bind_of_error (bind_of_error he)

theorem ComesToValue.error {es : List (Expr × Expr)} {r r' r'' : Record} {e : Expr} {h : Halt}
    (hto : ComesToValue context call s es r e r')
    (he : eval context call s e r' = (.error h, r'')) :
    evalEntries context call s es r = (.error h, r'') := by
  obtain ⟨before, key, after, ps, r₁, k, rfl, hps, hk, hfault⟩ := hto
  rw [evalEntries_append hps, evalEntries_cons]
  refine bind_of_error ?_
  rw [bind_of_ok hk, hfault]
  exact bind_of_error he

/-- What comes first after elements that succeed. -/
theorem ComesTo.cons {e₁ e : Expr} {es : List Expr} {v : Value} {r r₁ r' : Record}
    (hv : eval context call s e₁ r = (.ok v, r₁)) (h : ComesTo context call s es r₁ e r') :
    ComesTo context call s (e₁ :: es) r e r' := by
  obtain ⟨before, after, vs, rfl, hvs⟩ := h
  refine ⟨e₁ :: before, after, v :: vs, rfl, ?_⟩
  rw [evalAll_cons, bind_of_ok hv, bind_of_ok hvs]
  rfl

theorem comesTo_head (e : Expr) (es : List Expr) (r : Record) :
    ComesTo context call s (e :: es) r e r :=
  ⟨[], es, [], rfl, rfl⟩

/-- Elements that all succeed succeed together. -/
theorem evalAll_ok {es : List Expr} {r : Record}
    (h : ∀ e r', ComesTo context call s es r e r' →
      ∃ v r'', eval context call s e r' = (.ok v, r'')) :
    ∃ vs r', evalAll context call s es r = (.ok vs, r') := by
  induction es generalizing r with
  | nil => exact ⟨[], r, rfl⟩
  | cons e es ih =>
      obtain ⟨v, r₁, hv⟩ := h e r (comesTo_head e es r)
      obtain ⟨vs, r₂, hvs⟩ := ih fun e' r' he' => h e' r' (he'.cons hv)
      refine ⟨v :: vs, r₂, ?_⟩
      rw [evalAll_cons, bind_of_ok hv, bind_of_ok hvs]
      rfl

/-- Every value of a list is the value of one of the elements. -/
theorem evalAll_values {es : List Expr} {r r' : Record} {vs : List Value}
    (h : evalAll context call s es r = (.ok vs, r')) :
    ∀ v ∈ vs, ∃ e r₁ r₂, ComesTo context call s es r e r₁ ∧
      eval context call s e r₁ = (.ok v, r₂) := by
  induction es generalizing r vs with
  | nil =>
      rw [evalAll_nil] at h
      cases h
      simp
  | cons e es ih =>
      rw [evalAll_cons] at h
      obtain ⟨v, r₁, hv, h⟩ := ok_of_bind h
      obtain ⟨us, r₂, hus, h⟩ := ok_of_bind h
      cases h
      intro w hw
      rcases List.mem_cons.mp hw with rfl | hw
      · exact ⟨e, r, r₁, comesTo_head e es r, hv⟩
      · obtain ⟨e', r₃, r₄, hto, hval⟩ := ih hus w hw
        exact ⟨e', r₃, r₄, hto.cons hv, hval⟩

section

variable {key value e : Expr} {es : List (Expr × Expr)} {k v : Value} {r r₁ r₂ r' : Record}

theorem comesToKey_head (key value : Expr) (es : List (Expr × Expr)) (r : Record) :
    ComesToKey context call s ((key, value) :: es) r key r :=
  ⟨[], value, es, [], rfl, rfl⟩

theorem comesToValue_head (hk : eval context call s key r = (.ok k, r₁))
    (hfault : k.keyFault? = none) :
    ComesToValue context call s ((key, value) :: es) r value r₁ :=
  ⟨[], key, es, [], r, k, rfl, rfl, hk, hfault⟩

variable (hk : eval context call s key r = (.ok k, r₁)) (hfault : k.keyFault? = none)
  (hv : eval context call s value r₁ = (.ok v, r₂))
include hk hfault hv

theorem evalEntries_cons_ok {ps : List (Value × Value)}
    (hps : evalEntries context call s es r₂ = (.ok ps, r')) :
    evalEntries context call s ((key, value) :: es) r = (.ok ((k, v) :: ps), r') := by
  rw [evalEntries_cons, bind_of_ok hk, hfault]
  dsimp only
  rw [bind_of_ok hv, bind_of_ok hps]
  rfl

theorem ComesToKey.cons (h : ComesToKey context call s es r₂ e r') :
    ComesToKey context call s ((key, value) :: es) r e r' := by
  obtain ⟨before, value', after, ps, rfl, hps⟩ := h
  exact ⟨(key, value) :: before, value', after, (k, v) :: ps, rfl,
    evalEntries_cons_ok hk hfault hv hps⟩

theorem ComesToValue.cons (h : ComesToValue context call s es r₂ e r') :
    ComesToValue context call s ((key, value) :: es) r e r' := by
  obtain ⟨before, key', after, ps, r₃, k', rfl, hps, hk', hfault'⟩ := h
  exact ⟨(key, value) :: before, key', after, (k, v) :: ps, r₃, k', rfl,
    evalEntries_cons_ok hk hfault hv hps, hk', hfault'⟩

end

/-- Entries succeed together or come to a value that cannot be a key, if all
their keys and values succeed. -/
theorem evalEntries_ok_or_fault {es : List (Expr × Expr)} {r : Record}
    (hkeys : ∀ e r', ComesToKey context call s es r e r' →
      ∃ v r'', eval context call s e r' = (.ok v, r''))
    (hvalues : ∀ e r', ComesToValue context call s es r e r' →
      ∃ v r'', eval context call s e r' = (.ok v, r'')) :
    (∃ ps r', evalEntries context call s es r = (.ok ps, r')) ∨
    ∃ p ∈ es, ∃ k r', evalEntries context call s es r =
      (.error (.error ⟨.typeMismatch (.notAKey k), p.1.location⟩), r') := by
  induction es generalizing r with
  | nil => exact .inl ⟨[], r, rfl⟩
  | cons p es ih =>
      obtain ⟨key, value⟩ := p
      obtain ⟨k, r₁, hk⟩ := hkeys key r (comesToKey_head key value es r)
      cases hfault : k.keyFault? with
      | some fault =>
          refine .inr ⟨(key, value), List.mem_cons_self, k.typeName, r₁, ?_⟩
          rw [evalEntries_cons, bind_of_ok hk, hfault]
          rfl
      | none =>
          obtain ⟨v, r₂, hv⟩ := hvalues value r₁ (comesToValue_head hk hfault)
          rcases ih (fun e r' he => hkeys e r' (he.cons hk hfault hv))
              (fun e r' he => hvalues e r' (he.cons hk hfault hv)) with
            ⟨ps, r', hps⟩ | ⟨p, hp, t, r', hps⟩
          · exact .inl ⟨_, r', evalEntries_cons_ok hk hfault hv hps⟩
          · refine .inr ⟨p, List.mem_cons_of_mem _ hp, t, r', ?_⟩
            rw [evalEntries_cons, bind_of_ok hk, hfault]
            dsimp only
            rw [bind_of_ok hv, bind_of_error hps]

/-- Every key and every value of a list of entries is the value of one of the
expressions, and the keys have passed. -/
theorem evalEntries_values {es : List (Expr × Expr)} {r r' : Record} {ps : List (Value × Value)}
    (h : evalEntries context call s es r = (.ok ps, r')) :
    ∀ p ∈ ps, p.1.keyFault? = none ∧
      (∃ e r₁ r₂, ComesToKey context call s es r e r₁ ∧
        eval context call s e r₁ = (.ok p.1, r₂)) ∧
      ∃ e r₁ r₂, ComesToValue context call s es r e r₁ ∧
        eval context call s e r₁ = (.ok p.2, r₂) := by
  induction es generalizing r ps with
  | nil =>
      rw [evalEntries_nil] at h
      cases h
      simp
  | cons p es ih =>
      obtain ⟨key, value⟩ := p
      rw [evalEntries_cons] at h
      obtain ⟨k, r₁, hk, h⟩ := ok_of_bind h
      cases hfault : k.keyFault? with
      | some fault =>
          rw [hfault] at h
          cases h
      | none =>
          rw [hfault] at h
          obtain ⟨v, r₂, hv, h⟩ := ok_of_bind h
          obtain ⟨qs, r₃, hqs, h⟩ := ok_of_bind h
          cases h
          intro q hq
          rcases List.mem_cons.mp hq with rfl | hq
          · exact ⟨hfault, ⟨key, r, r₁, comesToKey_head key value es r, hk⟩,
              value, r₁, r₂, comesToValue_head hk hfault, hv⟩
          · obtain ⟨hpass, ⟨e, s₁, s₂, hto, he⟩, e', s₁', s₂', hto', he'⟩ := ih hqs q hq
            exact ⟨hpass, ⟨e, s₁, s₂, hto.cons hk hfault hv, he⟩,
              e', s₁', s₂', hto'.cons hk hfault hv, he'⟩

end

end Evaluation

open Evaluation

/-! ## Visits -/

/-- The evaluation of an expression in the course of a run: how many more calls
may become active, the scope, and the record it begins with. -/
structure Visit where
  budget : Nat
  scope : Scope
  expr : Expr
  record : Record

namespace Visit

/-- How an evaluation ends, and the record it leaves. -/
def run (context : Context) (x : Visit) : Except Halt Value × Record :=
  eval context (callWithin context x.budget) x.scope x.expr x.record

/-- The evaluations that an evaluation starts by itself, if it comes to them. -/
inductive Starts (context : Context) : Visit → Visit → Prop
  | member {n : Nat} {s : Scope} {l : Location} {b : Expr} {w : String} {r : Record} :
      Starts context ⟨n, s, .member l b w, r⟩ ⟨n, s, b, r⟩
  | base {n : Nat} {s : Scope} {l : Location} {b k : Expr} {r : Record} :
      Starts context ⟨n, s, .index l b k, r⟩ ⟨n, s, b, r⟩
  | key {n : Nat} {s : Scope} {l : Location} {b k : Expr} {r r' : Record} {v : Value}
      (hb : run context ⟨n, s, b, r⟩ = (.ok v, r')) :
      Starts context ⟨n, s, .index l b k, r⟩ ⟨n, s, k, r'⟩
  | callee {n : Nat} {s : Scope} {l : Location} {f : Expr} {es : List Expr} {r : Record} :
      Starts context ⟨n, s, .call l f es, r⟩ ⟨n, s, f, r⟩
  | argument {n : Nat} {s : Scope} {l : Location} {f e : Expr} {es : List Expr}
      {r r' r'' : Record} {v : Value} (hf : run context ⟨n, s, f, r⟩ = (.ok v, r'))
      (he : ComesTo context (callWithin context n) s es r' e r'') :
      Starts context ⟨n, s, .call l f es, r⟩ ⟨n, s, e, r''⟩
  | body {n : Nat} {s : Scope} {l : Location} {f b : Expr} {es : List Expr} {ps : List String}
      {frames : List Frame} {r r' r'' : Record} {vs : List Value}
      (hf : run context ⟨n + 1, s, f, r⟩ = (.ok (.closure ps b frames), r'))
      (hvs : evalAll context (callWithin context (n + 1)) s es r' = (.ok vs, r''))
      (hlength : vs.length = ps.length) :
      Starts context ⟨n + 1, s, .call l f es, r⟩
        ⟨n, (Scope.mk frames).child (ps.zip vs), b, r''⟩
  | condition {n : Nat} {s : Scope} {l : Location} {c a b : Expr} {r : Record} :
      Starts context ⟨n, s, .choice l c a b, r⟩ ⟨n, s, c, r⟩
  | yes {n : Nat} {s : Scope} {l : Location} {c a b : Expr} {r r' : Record}
      (hc : run context ⟨n, s, c, r⟩ = (.ok (.boolean true), r')) :
      Starts context ⟨n, s, .choice l c a b, r⟩ ⟨n, s, a, r'⟩
  | no {n : Nat} {s : Scope} {l : Location} {c a b : Expr} {r r' : Record}
      (hc : run context ⟨n, s, c, r⟩ = (.ok (.boolean false), r')) :
      Starts context ⟨n, s, .choice l c a b, r⟩ ⟨n, s, b, r'⟩
  | element {n : Nat} {s : Scope} {l : Location} {e : Expr} {es : List Expr} {r r' : Record}
      (he : ComesTo context (callWithin context n) s es r e r') :
      Starts context ⟨n, s, .list l es, r⟩ ⟨n, s, e, r'⟩
  | entryKey {n : Nat} {s : Scope} {l : Location} {e : Expr} {es : List (Expr × Expr)}
      {r r' : Record} (he : ComesToKey context (callWithin context n) s es r e r') :
      Starts context ⟨n, s, .dictionary l es, r⟩ ⟨n, s, e, r'⟩
  | entryValue {n : Nat} {s : Scope} {l : Location} {e : Expr} {es : List (Expr × Expr)}
      {r r' : Record} (he : ComesToValue context (callWithin context n) s es r e r') :
      Starts context ⟨n, s, .dictionary l es, r⟩ ⟨n, s, e, r'⟩

variable {context : Context} {x y : Visit}

/-- A closure's body is started with one call less, everything else on a part of
the expression. -/
theorem Starts.lex (h : Starts context x y) :
    Prod.Lex (· < ·) (· < ·) (y.budget, sizeOf y.expr) (x.budget, sizeOf x.expr) := by
  have hpart : ∀ {n k m : Nat}, k < m → Prod.Lex (· < ·) (· < ·) (n, k) (n, m) :=
    fun h => .right _ h
  have hentry : ∀ {es : List (Expr × Expr)} {p : Expr × Expr}, p ∈ es →
      sizeOf p.1 < sizeOf es ∧ sizeOf p.2 < sizeOf es := by
    intro es p hp
    have hsize := List.sizeOf_lt_of_mem hp
    obtain ⟨a, b⟩ := p
    simp only [Prod.mk.sizeOf_spec] at hsize
    constructor <;> dsimp only <;> omega
  cases h with
  | member | base | key | callee | condition | yes | no =>
      refine hpart ?_
      simp only [Expr.member.sizeOf_spec, Expr.index.sizeOf_spec, Expr.call.sizeOf_spec,
        Expr.choice.sizeOf_spec]
      omega
  | argument _ he =>
      have hsize := List.sizeOf_lt_of_mem he.mem
      refine hpart ?_
      simp only [Expr.call.sizeOf_spec]
      omega
  | element he =>
      have hsize := List.sizeOf_lt_of_mem he.mem
      refine hpart ?_
      simp only [Expr.list.sizeOf_spec]
      omega
  | entryKey he =>
      obtain ⟨p, hp, rfl⟩ := he.mem
      have hsize := (hentry hp).1
      refine hpart ?_
      simp only [Expr.dictionary.sizeOf_spec]
      omega
  | entryValue he =>
      obtain ⟨p, hp, rfl⟩ := he.mem
      have hsize := (hentry hp).2
      refine hpart ?_
      simp only [Expr.dictionary.sizeOf_spec]
      omega
  | body => exact .left _ _ (Nat.lt_succ_self _)

/-- No evaluation starts others without end. -/
theorem wellFounded_starts (context : Context) :
    WellFounded fun y x => Starts context x y :=
  Subrelation.wf (fun h => h.lex)
    (InvImage.wf (fun x : Visit => (x.budget, sizeOf x.expr))
      (WellFounded.prod_lex Nat.lt_wfRel.wf Nat.lt_wfRel.wf))

/-! ## Failures go through -/

/-- What an evaluation starts fails for both, the cause, the place and the
record unchanged. -/
theorem run_of_starts {h : Halt} {r : Record} (hs : Starts context x y)
    (hy : y.run context = (.error h, r)) : x.run context = (.error h, r) := by
  unfold run at hy ⊢
  cases hs with
  | member =>
      rw [eval_member]
      exact bind_of_error hy
  | base =>
      rw [eval_index]
      exact bind_of_error hy
  | key hb =>
      rw [eval_index]
      exact (bind_of_ok hb).trans (bind_of_error hy)
  | callee =>
      rw [eval_call]
      exact bind_of_error hy
  | argument hf he =>
      rw [eval_call]
      exact (bind_of_ok hf).trans (bind_of_error (he.error hy))
  | body hf hvs hlength =>
      rw [eval_call]
      refine (bind_of_ok hf).trans ((bind_of_ok hvs).trans ?_)
      rw [callWithin_closure hlength]
      exact hy
  | condition =>
      rw [eval_choice]
      exact bind_of_error hy
  | yes hc =>
      rw [eval_choice]
      exact (bind_of_ok hc).trans hy
  | no hc =>
      rw [eval_choice]
      exact (bind_of_ok hc).trans hy
  | element he =>
      rw [eval_list]
      exact bind_of_error (he.error hy)
  | entryKey he =>
      rw [eval_dictionary]
      exact bind_of_error (he.error hy)
  | entryValue he =>
      rw [eval_dictionary]
      exact bind_of_error (he.error hy)

/-- An evaluation fails by itself: all that it starts succeeds. -/
def Raises (context : Context) (x : Visit) (h : Halt) (r : Record) : Prop :=
  x.run context = (.error h, r) ∧ ∀ y, Starts context x y → ∃ v r', y.run context = (.ok v, r')

/-- A failure comes from an evaluation that fails by itself. -/
theorem exists_raises {h : Halt} {r : Record} (hx : x.run context = (.error h, r)) :
    ∃ y, Relation.ReflTransGen (Starts context) x y ∧ y.Raises context h r := by
  induction x using (wellFounded_starts context).induction with
  | h x ih =>
      by_cases hall : ∀ y, Starts context x y → ∃ v r', y.run context = (.ok v, r')
      · exact ⟨x, .refl, hx, hall⟩
      · push Not at hall
        obtain ⟨y, hs, hy⟩ := hall
        -- what fails below fails as the whole does
        have hfails : y.run context = (.error h, r) := by
          generalize hrun : y.run context = z at hy
          obtain ⟨e | v, r'⟩ := z
          · exact (run_of_starts hs hrun).symm.trans hx
          · exact absurd rfl (hy v r')
        obtain ⟨z, hyz, hz⟩ := ih y hs hfails
        exact ⟨z, .head hs hyz, hz⟩

end Visit

/-! ## Whole runs -/

namespace Evaluation

/-- Rendering evaluates the children one after another and joins their texts. -/
theorem renderAll_eq (context : Context) (s : Scope) (es : List Expr) :
    renderAll context s es = do
      let vs ← evalAll context (caller context) s es
      return (vs.map Value.text).foldr (· ++ ·) "" := by
  induction es with
  | nil =>
      rw [renderAll_nil, evalAll_nil]
      rfl
  | cons e es ih =>
      rw [renderAll_cons, evalAll_cons, ih]
      simp only [bind_assoc, pure_bind, List.map_cons, List.foldr_cons]

end Evaluation

namespace Template

/-- The evaluations that a run of a template is made of. -/
inductive Visits (t : Template) (context : Context) (scope : Scope) (record : Record) :
    Visit → Prop
  | child {e : Expr} {r : Record}
      (h : ComesTo context (caller context) scope t.children record e r) :
      Visits t context scope record ⟨context.limit, scope, e, r⟩
  | step {x y : Visit} (h : Visits t context scope record x) (hs : Visit.Starts context x y) :
      Visits t context scope record y

variable {t : Template} {context : Context} {scope : Scope} {record : Record} {x y : Visit}
  {h : Halt} {r : Record}

theorem Visits.trans (hx : t.Visits context scope record x)
    (hxy : Relation.ReflTransGen (Visit.Starts context) x y) :
    t.Visits context scope record y := by
  induction hxy with
  | refl => exact hx
  | tail _ hs ih => exact ih.step hs

/-- The failure of any evaluation of a run is that of the rendering. -/
theorem renderAll_of_visits (hx : t.Visits context scope record x)
    (hfails : x.run context = (.error h, r)) :
    renderAll context scope t.children record = (.error h, r) := by
  induction hx with
  | child he =>
      rw [renderAll_eq]
      exact bind_of_error (he.error hfails)
  | step _ hs ih => exact ih (Visit.run_of_starts hs hfails)

/-- A rendering that fails does so because one of its evaluations fails by
itself. -/
theorem exists_raises_of_renderAll
    (hfails : renderAll context scope t.children record = (.error h, r)) :
    ∃ x, t.Visits context scope record x ∧ x.Raises context h r := by
  by_cases hall : ∀ e r', ComesTo context (caller context) scope t.children record e r' →
      ∃ v r'', eval context (caller context) scope e r' = (.ok v, r'')
  · obtain ⟨vs, r', hvs⟩ := evalAll_ok hall
    rw [renderAll_eq, bind_of_ok hvs] at hfails
    cases hfails
  · push Not at hall
    obtain ⟨e, r', hto, hfail⟩ := hall
    have hvisits : t.Visits context scope record ⟨context.limit, scope, e, r'⟩ :=
      .child hto
    have herror : Visit.run context ⟨context.limit, scope, e, r'⟩ =
        (.error h, r) := by
      generalize hrun : Visit.run context _ = z
      obtain ⟨e' | v, r''⟩ := z
      · cases (renderAll_of_visits hvisits hrun).symm.trans hfails
        rfl
      · exact absurd hrun (hfail v r'')
    obtain ⟨x, hx, hraises⟩ := Visit.exists_raises herror
    exact ⟨x, hvisits.trans hx, hraises⟩

end Template

end Inlay
