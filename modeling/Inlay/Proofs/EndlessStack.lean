import Inlay.Evaluation
import Inlay.Proofs.Trees

/-!
# Evaluation without end

On a stack without end every step finds its frames and leaves the stack as it was, so
the rules of evaluation hold without mention of it. They are collected here, one for
each sort of expression and of value that is called; all that is proved of runs on
such a stack rests on these.
-/

namespace Inlay

namespace Evaluation

variable {context : Context} {call : Caller} {scope : Scope} {l : Location}

/-! ## Expressions -/

theorem eval_string (s : String) : eval context call scope (.string l s) = pure (.string s) := rfl

theorem eval_integer (n : Int) : eval context call scope (.integer l n) = pure (.integer n) := rfl

theorem eval_float (x : Binary64) : eval context call scope (.float l x) = pure (.float x) := rfl

theorem eval_name (name : String) :
    eval context call scope (.name l name) = resolve context scope l name := rfl

theorem eval_member (base : Expr) (name : String) :
    eval context call scope (.member l base name) = (do
      let b ← eval context call scope base
      member l b name) := rfl

theorem eval_index (base key : Expr) :
    eval context call scope (.index l base key) = (do
      let b ← eval context call scope base
      let k ← eval context call scope key
      index l b k) := rfl

theorem eval_call (function : Expr) (arguments : List Expr) :
    eval context call scope (.call l function arguments) = (do
      let f ← eval context call scope function
      let vs ← evalAll context call scope arguments
      call l f vs) := rfl

theorem eval_choice (condition yes no : Expr) :
    eval context call scope (.choice l condition yes no) = (do
      let c ← eval context call scope condition
      match c with
      | .boolean true => eval context call scope yes
      | .boolean false => eval context call scope no
      | v => mismatch l (.condition v.typeName)) := rfl

theorem eval_list (elements : List Expr) :
    eval context call scope (.list l elements) = (do
      let vs ← evalAll context call scope elements
      return .list .template vs) := rfl

theorem eval_dictionary (entries : List (Expr × Expr)) :
    eval context call scope (.dictionary l entries) = (do
      let pairs ← evalEntries context call scope entries
      return .dictionary .template (Dictionary.putAll Value.sameKey pairs)) := rfl

theorem eval_function (parameters : List String) (body : Expr) :
    eval context call scope (.function l parameters body) =
      pure (.closure parameters body scope.frames) := rfl

theorem evalAll_nil : evalAll context call scope [] = pure [] := rfl

theorem evalAll_cons (e : Expr) (rest : List Expr) :
    evalAll context call scope (e :: rest) = (do
      let v ← eval context call scope e
      let vs ← evalAll context call scope rest
      return v :: vs) := rfl

theorem evalEntries_nil : evalEntries context call scope [] = pure [] := rfl

theorem evalEntries_cons (key value : Expr) (rest : List (Expr × Expr)) :
    evalEntries context call scope ((key, value) :: rest) = (do
      let k ← eval context call scope key
      match k.keyFault? with
      | some _ => mismatch key.location (.notAKey k.typeName)
      | none => do
        let v ← eval context call scope value
        let pairs ← evalEntries context call scope rest
        return (k, v) :: pairs) := rfl

/-! ## Calls -/

/-- What a call would do with another stack does not matter. -/
theorem evalOn_endless (call : Stack → Caller) (e : Expr) :
    evalOn .endless context call scope e = eval context (call .endless) scope e := by
  have hall {es : List Expr}
      (ih : ∀ e ∈ es, evalOn .endless context call scope e = eval context (call .endless) scope e) :
      evalAllOn .endless context call scope es = evalAll context (call .endless) scope es := by
    induction es with
    | nil => rfl
    | cons e es ihes =>
        obtain ⟨he, hes⟩ := List.forall_mem_cons.mp ih
        rw [evalAll_cons, ← he, ← ihes hes]
        rfl
  induction e using Expr.induction with
  | member l b name ih => rw [eval_member, ← ih]; rfl
  | index l b k ihb ihk => rw [eval_index, ← ihb, ← ihk]; rfl
  | call l f es ihf ihes => rw [eval_call, ← ihf, ← hall ihes]; rfl
  | choice l c a b ihc iha ihb => rw [eval_choice, ← ihc, ← iha, ← ihb]; rfl
  | list l es ih => rw [eval_list, ← hall ih]; rfl
  | dictionary l es ih =>
      have hentries : evalEntriesOn .endless context call scope es =
          evalEntries context (call .endless) scope es := by
        induction es with
        | nil => rfl
        | cons p es ihes =>
            obtain ⟨hp, hes⟩ := List.forall_mem_cons.mp ih
            rw [evalEntries_cons, ← hp.1, ← hp.2, ← ihes hes]
            rfl
      rw [eval_dictionary, ← hentries]
      rfl
  | _ => rfl

variable {budget : Nat} {arguments : List Value}

/-- What a call does, case by case. -/
theorem callWithin_eq (function : Value) :
    callWithin context budget l function arguments =
      match function with
      | .closure parameters body frames =>
        if arguments.length ≠ parameters.length then
          fail l (.arityMismatch parameters.length arguments.length)
        else
          match budget with
          | 0 => fail l (.callDepthExceeded context.limit)
          | left + 1 =>
            eval context (callWithin context left)
              ((Scope.mk frames).child (parameters.zip arguments)) body
      | .builtin f =>
        if !f.accepts arguments.length then
          fail l (.callFailed f.name (.arity f.arityText arguments.length))
        else if budget = 0 then fail l (.callDepthExceeded context.limit)
        else do
          let v ← runRoutine context l f arguments
          if v.isKnown then pure v
          else fail l (.callFailed f.name (.unsupported v.representationName))
      | v => mismatch l (.notCallable v.typeName) := by
  cases function with
  | closure parameters body frames =>
      cases budget with
      | zero => rfl
      | succ left => exact ite_congr rfl (fun _ => rfl) fun _ => evalOn_endless ..
  | _ => cases budget <;> rfl

theorem callWithin_closure {parameters : List String} {body : Expr} {frames : List Frame}
    (h : arguments.length = parameters.length) :
    callWithin context (budget + 1) l (.closure parameters body frames) arguments =
      eval context (callWithin context budget)
        ((Scope.mk frames).child (parameters.zip arguments)) body := by
  rw [callWithin_eq]
  exact if_neg (not_not.mpr h)

/-! ## Templates -/

theorem renderAll_nil : renderAll context scope [] = pure "" := rfl

theorem renderAll_cons (e : Expr) (rest : List Expr) :
    renderAll context scope (e :: rest) = (do
      let v ← eval context (caller context) scope e
      let text ← renderAll context scope rest
      return v.text ++ text) := by
  rw [renderAll, renderAllOn, evalOn_endless]
  rfl

end Evaluation

end Inlay
