import Inlay.Expr.Reader
import Inlay.Proofs.Visits

/-!
# What the limit of call depth does

A run makes calls active one after another, each on top of those that are active
when it is made (`Template.activations`). The limit changes nothing about a run
until the first call that would be active on a level above it; there the run
fails, at the place of that call (`limit_exact`).

Two runs under different limits are followed side by side. As long as no call is
above the lower limit they are one and the same (`TracksAt.whole`), and the first
such call is where the other run ends (`TracksAt.refused`); sequencing keeps this,
so only calls need to be looked at.
-/

namespace Inlay

namespace Evaluation

/-! ## The calls of a run -/

/-- A call that is to become active: the level it is active on, which is how
many calls are active with it, and its place. -/
structure Activation where
  level : Nat
  location : Location
  deriving DecidableEq, Repr

/-- The calls that an evaluation makes when it begins with a record, first one
first. -/
abbrev Activations := Record → List Activation

/-- The calls of an evaluation and then those of what is done with its result. -/
def Activations.andThen {α : Type} (first : Activations) (m : Evaluated α)
    (next : α → Activations) : Activations := fun r =>
  first r ++ match m r with
    | (.ok a, r') => next a r'
    | (.error _, _) => []

mutual

/-- The calls that evaluating an expression makes, where `call` calls functions
and `within` tells the calls that this makes. A call's function and arguments
are evaluated before it becomes active. -/
def activations (context : Context) (call : Caller)
    (within : Location → Value → List Value → Activations) (scope : Scope) : Expr → Activations
  | .member _ base _ => activations context call within scope base
  | .index _ base key =>
    (activations context call within scope base).andThen (eval context call scope base) fun _ =>
      activations context call within scope key
  | .call l function arguments =>
    (activations context call within scope function).andThen (eval context call scope function)
      fun f => (activationsAll context call within scope arguments).andThen
        (evalAll context call scope arguments) fun vs => within l f vs
  | .choice _ condition yes no =>
    (activations context call within scope condition).andThen (eval context call scope condition)
      fun c => match c with
        | .boolean true => activations context call within scope yes
        | .boolean false => activations context call within scope no
        | _ => fun _ => []
  | .list _ elements => activationsAll context call within scope elements
  | .dictionary _ entries => activationsEntries context call within scope entries
  | .string _ _ | .integer _ _ | .float _ _ | .name _ _ | .function _ _ _ => fun _ => []

/-- The calls that evaluating expressions from left to right makes. -/
def activationsAll (context : Context) (call : Caller)
    (within : Location → Value → List Value → Activations) (scope : Scope) :
    List Expr → Activations
  | [] => fun _ => []
  | e :: rest =>
    (activations context call within scope e).andThen (eval context call scope e) fun _ =>
      activationsAll context call within scope rest

def activationsEntries (context : Context) (call : Caller)
    (within : Location → Value → List Value → Activations) (scope : Scope) :
    List (Expr × Expr) → Activations
  | [] => fun _ => []
  | (key, value) :: rest =>
    (activations context call within scope key).andThen (eval context call scope key) fun k =>
      match k.keyFault? with
      | some _ => fun _ => []
      | none =>
        (activations context call within scope value).andThen (eval context call scope value)
          fun _ => activationsEntries context call within scope rest

end

/-- The calls that a call makes, itself first, when `active` calls are active
and `budget` more may become active. A call with the wrong number of arguments
does not become active; one that is refused for want of budget is listed, and is
the last one. -/
def activationsOfCall (context : Context) :
    (budget active : Nat) → Location → Value → List Value → Activations
  | budget, active, location, function, arguments =>
    match function with
    | .closure parameters body frames =>
      if arguments.length ≠ parameters.length then fun _ => []
      else fun r => ⟨active + 1, location⟩ ::
        match budget with
        | 0 => []
        | left + 1 =>
          activations context (callWithin context left)
            (activationsOfCall context left (active + 1))
            ((Scope.mk frames).child (parameters.zip arguments)) body r
    | .builtin f => fun _ => if f.accepts arguments.length then [⟨active + 1, location⟩] else []
    | _ => fun _ => []

theorem Activations.andThen_nil {α : Type} (calls : Activations) (m : Evaluated α) :
    (calls.andThen m fun _ _ => []) = calls := by
  funext r
  rw [Activations.andThen]
  split <;> exact List.append_nil _

/-- The greatest number of calls that are active together. -/
def peak (calls : List Activation) : Nat := (calls.map Activation.level).foldr max 0

theorem peak_le {calls : List Activation} {d : Nat} :
    peak calls ≤ d ↔ ∀ a ∈ calls, a.level ≤ d := by
  induction calls with
  | nil => simp [peak]
  | cons a calls ih =>
      rw [peak, List.map_cons, List.foldr_cons, Nat.max_le, List.forall_mem_cons]
      exact and_congr_right fun _ => ih

end Evaluation

/-- The same surroundings with another limit of call depth. -/
def Context.withLimit (context : Context) (limit : Nat) : Context := { context with limit := limit }

namespace Evaluation

/-! ## Runs under two limits -/

/-- How a call that would be one too many ends a run. -/
def refusal (context : Context) (l : Location) : Halt :=
  .error ⟨.callDepthExceeded context.limit, l⟩

/-- What a run under a limit that allows `d` active calls comes to, when a run
that allows more makes the given calls and comes to `x`. -/
inductive TracksAt {α : Type} (context : Context) (d : Nat) (x : Except Halt α × Record) :
    List Activation → Except Halt α × Record → Prop
  | whole {calls : List Activation} (h : ∀ a ∈ calls, a.level ≤ d) : TracksAt context d x calls x
  | refused {before after : List Activation} {a : Activation} {r : Record}
      (hbefore : ∀ b ∈ before, b.level ≤ d) (ha : a.level = d + 1) :
      TracksAt context d x (before ++ a :: after) (.error (refusal context a.location), r)

/-- A run that tracks another one is that one, or it has been refused a call. -/
theorem TracksAt.split {α : Type} {context : Context} {d : Nat} {x y : Except Halt α × Record}
    {calls : List Activation} (h : TracksAt context d x calls y) :
    ((∀ a ∈ calls, a.level ≤ d) ∧ y = x) ∨
    ∃ before a after r, calls = before ++ a :: after ∧ (∀ b ∈ before, b.level ≤ d) ∧
      a.level = d + 1 ∧ y = (.error (refusal context a.location), r) := by
  cases h with
  | whole hall => exact .inl ⟨hall, rfl⟩
  | refused hbefore ha => exact .inr ⟨_, _, _, _, rfl, hbefore, ha, rfl⟩

/-- From every record the second evaluation, which may make `d` calls active,
tracks the first one, which makes the given calls. -/
def Tracks {α : Type} (context : Context) (d : Nat) (m m' : Evaluated α)
    (calls : Activations) : Prop :=
  ∀ r, TracksAt context d (m r) (calls r) (m' r)

section

variable {context : Context} {d : Nat} {α β : Type} {m m' : Evaluated α} {calls : Activations}

theorem Tracks.same (m : Evaluated α) : Tracks context d m m fun _ => [] :=
  fun _ => .whole fun _ h => nomatch h

theorem Tracks.andThen {f f' : α → Evaluated β} {next : α → Activations}
    (h : Tracks context d m m' calls) (hf : ∀ a, Tracks context d (f a) (f' a) (next a)) :
    Tracks context d (m >>= f) (m' >>= f') (calls.andThen m next) := by
  intro r
  have hr := h r
  rw [bind_eq, bind_eq, Activations.andThen]
  generalize m r = x at hr ⊢
  generalize m' r = y at hr ⊢
  generalize calls r = first at hr ⊢
  cases hr with
  | whole hfirst =>
      obtain ⟨e | a, r₁⟩ := x
      · exact .whole (by simpa using hfirst)
      · dsimp only
        have hnext := hf a r₁
        generalize f a r₁ = z at hnext ⊢
        generalize f' a r₁ = z' at hnext ⊢
        generalize next a r₁ = second at hnext ⊢
        cases hnext with
        | whole hsecond => exact .whole (List.forall_mem_append.mpr ⟨hfirst, hsecond⟩)
        | refused hbefore ha =>
            rw [← List.append_assoc]
            exact .refused (List.forall_mem_append.mpr ⟨hfirst, hbefore⟩) ha
  | refused hbefore ha =>
      dsimp only
      rw [List.append_assoc, List.cons_append]
      exact .refused hbefore ha

/-- One more call in front, on a level that both limits allow. -/
theorem Tracks.cons {a : Activation} (ha : a.level ≤ d) (h : Tracks context d m m' calls) :
    Tracks context d m m' fun r => a :: calls r := by
  intro r
  have hr := h r
  generalize m r = x at hr ⊢
  generalize m' r = y at hr ⊢
  dsimp only
  generalize calls r = as at hr ⊢
  cases hr with
  | whole hall => exact .whole (List.forall_mem_cons.mpr ⟨ha, hall⟩)
  | refused hbefore hlevel =>
      rw [← List.cons_append]
      exact .refused (List.forall_mem_cons.mpr ⟨ha, hbefore⟩) hlevel

/-- What makes no calls may be done with the result of either. -/
theorem Tracks.bind (h : Tracks context d m m' calls) (f : α → Evaluated β) :
    Tracks context d (m >>= f) (m' >>= f) calls := by
  have hall := h.andThen fun a => Tracks.same (f a)
  rwa [calls.andThen_nil] at hall

end

/-! ## Evaluations -/

section

variable {limit d : Nat}

section

variable {call call' : Caller} {within : Location → Value → List Value → Activations} {s : Scope}

/-- Elements that are tracked one by one are tracked as a list. -/
theorem tracks_evalAll (context : Context) {es : List Expr}
    (hes : ∀ e ∈ es, Tracks (context.withLimit limit) d (eval context call s e)
      (eval (context.withLimit limit) call' s e) (activations context call within s e)) :
    Tracks (context.withLimit limit) d (evalAll context call s es)
      (evalAll (context.withLimit limit) call' s es) (activationsAll context call within s es) := by
  induction es with
  | nil =>
      rw [evalAll_nil, evalAll_nil, activationsAll]
      exact .same _
  | cons e es ih =>
      obtain ⟨he, hes⟩ := List.forall_mem_cons.mp hes
      rw [evalAll_cons, evalAll_cons, activationsAll]
      exact he.andThen fun v => (ih hes).bind _

theorem tracks_evalEntries (context : Context) {es : List (Expr × Expr)}
    (hes : ∀ p ∈ es, Tracks (context.withLimit limit) d (eval context call s p.1)
        (eval (context.withLimit limit) call' s p.1) (activations context call within s p.1) ∧
      Tracks (context.withLimit limit) d (eval context call s p.2)
        (eval (context.withLimit limit) call' s p.2) (activations context call within s p.2)) :
    Tracks (context.withLimit limit) d (evalEntries context call s es)
      (evalEntries (context.withLimit limit) call' s es)
      (activationsEntries context call within s es) := by
  induction es with
  | nil =>
      rw [evalEntries_nil, evalEntries_nil, activationsEntries]
      exact .same _
  | cons p es ih =>
      obtain ⟨key, value⟩ := p
      obtain ⟨⟨hkey, hvalue⟩, hes⟩ := List.forall_mem_cons.mp hes
      rw [evalEntries_cons, evalEntries_cons, activationsEntries]
      refine hkey.andThen fun k => ?_
      cases k.keyFault? with
      | some _ => exact .same _
      | none => exact hvalue.andThen fun v => (ih hes).bind _

/-- Evaluation is tracked if its calls are. -/
theorem tracks_eval (context : Context)
    (hcall : ∀ l v vs, Tracks (context.withLimit limit) d (call l v vs) (call' l v vs)
      (within l v vs)) (e : Expr) :
    Tracks (context.withLimit limit) d (eval context call s e)
      (eval (context.withLimit limit) call' s e) (activations context call within s e) := by
  induction e using Expr.induction with
  | string | integer | float | name | function => exact .same _
  | member l b w ih =>
      rw [eval_member, eval_member, activations]
      exact ih.bind _
  | index l b k ihb ihk =>
      rw [eval_index, eval_index, activations]
      exact ihb.andThen fun v => ihk.bind _
  | call l f es ihf ihes =>
      rw [eval_call, eval_call, activations]
      exact ihf.andThen fun v => (tracks_evalAll context ihes).andThen fun vs => hcall l v vs
  | choice l c a b ihc iha ihb =>
      rw [eval_choice, eval_choice, activations]
      refine ihc.andThen fun v => ?_
      cases v with
      | boolean x =>
          cases x with
          | true => exact iha
          | false => exact ihb
      | _ => exact .same _
  | list l es ih =>
      rw [eval_list, eval_list, activations]
      exact (tracks_evalAll context ih).bind _
  | dictionary l es ih =>
      rw [eval_dictionary, eval_dictionary, activations]
      exact (tracks_evalEntries context ih).bind _

end

/-- Calls under the two limits, when `active` calls are active before: as many
more as there are up to `d` may become active in the second run, and no fewer in
the first. -/
theorem tracks_callWithin (context : Context) {budget budget' active : Nat}
    (hactive : active + budget' = d) (hle : budget' ≤ budget) (l : Location) (v : Value)
    (vs : List Value) :
    Tracks (context.withLimit limit) d (callWithin context budget l v vs)
      (callWithin (context.withLimit limit) budget' l v vs)
      (activationsOfCall context budget active l v vs) := by
  induction budget' generalizing budget active l v vs with
  | zero =>
      obtain rfl : active = d := hactive
      -- whatever becomes active in the first run is refused in the second
      have hrefused : ∀ {x : Except Halt Value × Record} {after : List Activation} {r : Record},
          TracksAt (context.withLimit limit) active x (⟨active + 1, l⟩ :: after)
            (.error (refusal (context.withLimit limit) l), r) := by
        intro x after r
        rw [← List.nil_append (_ :: after)]
        exact .refused (fun _ h => nomatch h) rfl
      rw [callWithin_eq, callWithin_eq]
      unfold activationsOfCall
      cases v with
      | closure ps b frames =>
          dsimp only
          split
          · exact .same _
          · exact fun r => hrefused
      | builtin f =>
          dsimp only
          cases f.accepts vs.length with
          | true => exact fun r => hrefused
          | false => exact .same _
      | _ => exact .same _
  | succ left' ih =>
      obtain ⟨left, rfl⟩ : ∃ left, budget = left + 1 := ⟨budget - 1, by omega⟩
      have hlevel : active + 1 ≤ d := by omega
      rw [callWithin_eq, callWithin_eq]
      unfold activationsOfCall
      cases v with
      | closure ps b frames =>
          dsimp only
          split
          · exact .same _
          · refine (tracks_eval context (fun l v vs => ?_) b).cons hlevel
            exact ih (by omega) (by omega) l v vs
      | builtin f =>
          dsimp only
          cases f.accepts vs.length with
          | true => exact (Tracks.same _).cons hlevel
          | false => exact .same _
      | _ => exact .same _

end

/-! ## Whole runs -/

/-- Ending for the reason that calls nest too deep. -/
def Exceeds {α : Type} (outcome : Except RenderError α) : Prop :=
  ∃ n l, outcome = .error ⟨.callDepthExceeded n, l⟩

/-- What a run under one limit, which makes the given calls, tells of the runs
under all limits. -/
structure LimitExact {α : Type} (run : Nat → Except RenderError α × Record) (limit : Nat)
    (calls : List Activation) : Prop where
  /-- Under a limit that the calls stay within, the run is the same. -/
  kept : ∀ d, peak calls ≤ d → run d = run limit
  /-- Under any lower limit the run fails, at the first call that is above it. -/
  refused : ∀ d, d < peak calls → ∃ a, calls.find? (d < ·.level) = some a ∧ a.level = d + 1 ∧
    (run d).1 = .error ⟨.callDepthExceeded d, a.location⟩
  /-- Raising the limit changes nothing. -/
  raised : ∀ d, limit ≤ d → run d = run limit

section

variable {α : Type} {context : Context} {l : Location} {m m' : Evaluated α} {r : Record}

/-- A refused call ends the run at its place. -/
theorem settle_refusal {l' : Location} {r' : Record}
    (h : m r = (.error (refusal context l'), r')) :
    (settle context l m r).1 = .error ⟨.callDepthExceeded context.limit, l'⟩ := by
  unfold settle
  rw [h]
  rfl

/-- Runs that end alike are settled alike, whatever the limit, unless the host's
stack ends them. -/
theorem settle_withLimit {limit : Nat} (h : ¬ Exceeds (settle context l m r).1)
    (heq : m' r = m r) : settle (context.withLimit limit) l m' r = settle context l m r := by
  unfold settle at h ⊢
  rw [heq]
  generalize m r = x at h ⊢
  match x with
  | (.ok _, _) => rfl
  | (.error (.error _), _) => rfl
  | (.error .stackExhausted, _) => exact absurd ⟨_, _, rfl⟩ h

theorem find?_above {before after : List Activation} {a : Activation} {d : Nat}
    (hbefore : ∀ b ∈ before, b.level ≤ d) (ha : d < a.level) :
    (before ++ a :: after).find? (d < ·.level) = some a := by
  have hnone : before.find? (d < ·.level) = none := by simpa using hbefore
  rw [List.find?_append, hnone, List.find?_cons_of_pos (by simpa using ha)]
  rfl

/-- If under any two limits the run that allows fewer calls tracks the other,
one run tells all. -/
theorem limitExact_of_tracks {runs : Nat → Evaluated α} {calls : Nat → Activations}
    (htracks : ∀ n n', n' ≤ n → Tracks (context.withLimit n') n' (runs n) (runs n') (calls n))
    {limit : Nat} (hrun : ¬ Exceeds (settle (context.withLimit limit) l (runs limit) r).1) :
    LimitExact (fun d => settle (context.withLimit d) l (runs d) r) limit (calls limit r) := by
  have hpeak : peak (calls limit r) ≤ limit := by
    rcases (htracks limit limit (Nat.le_refl _) r).split with
      ⟨hall, -⟩ | ⟨_, _, _, _, -, -, -, hrefused⟩
    · exact peak_le.mpr hall
    · exact absurd ⟨_, _, settle_refusal hrefused⟩ hrun
  have hkept : ∀ d, peak (calls limit r) ≤ d → runs d r = runs limit r := by
    intro d hd
    rcases Nat.le_total d limit with hle | hle
    · rcases (htracks limit d hle r).split with ⟨-, heq⟩ | ⟨before, a, after, _, hcalls, -, ha, -⟩
      · exact heq
      · have hmem : a ∈ calls limit r := by simp [hcalls]
        have hlevel := peak_le.mp (Nat.le_refl _) a hmem
        omega
    · rcases (htracks d limit hle r).split with ⟨-, heq⟩ | ⟨_, _, _, _, -, -, -, hrefused⟩
      · exact heq.symm
      · exact absurd ⟨_, _, settle_refusal hrefused⟩ hrun
  refine ⟨fun d hd => settle_withLimit hrun (hkept d hd), fun d hd => ?_, fun d hd => ?_⟩
  · rcases (htracks limit d (by omega) r).split with
      ⟨hall, -⟩ | ⟨before, a, after, r', hcalls, hbefore, ha, heq⟩
    · exact absurd (peak_le.mpr hall) (Nat.not_le.mpr hd)
    · exact ⟨a, hcalls ▸ find?_above hbefore (by omega), ha, settle_refusal heq⟩
  · exact settle_withLimit hrun (hkept d (by omega))

end

end Evaluation

open Evaluation

namespace Template

/-- The calls that a run of a template makes, first one first. -/
def activations (t : Template) (context : Context) (scope : Scope) : Activations :=
  activationsAll context (caller context)
    (activationsOfCall context context.limit 0) scope t.children

def evaluation (t : Template) (context : Context) (scope : Scope) : Evaluated Value :=
  match t.children with
  | [e] => eval context (caller context) scope e
  | es => do
    let text ← renderAll context scope es
    return .string text

theorem evaluate_eq (t : Template) (context : Context) (scope : Scope) (record : Record) :
    t.evaluate context scope record =
      settle context t.location (t.evaluation context scope) record := by
  obtain ⟨es⟩ := t
  match es with
  | [e] =>
      unfold Template.evaluate evaluateOn
      dsimp only
      rw [evalOn_endless]
      rfl
  | [] | _ :: _ :: _ => rfl

section

variable (context : Context) {limit limit' : Nat} (hle : limit' ≤ limit) (scope : Scope)
include hle

theorem tracks_child (e : Expr) :
    Tracks (context.withLimit limit') limit'
      (eval (context.withLimit limit) (caller (context.withLimit limit)) scope e)
      (eval (context.withLimit limit') (caller (context.withLimit limit')) scope e)
      (Evaluation.activations (context.withLimit limit) (caller (context.withLimit limit))
        (activationsOfCall (context.withLimit limit) limit 0) scope e) :=
  tracks_eval (context.withLimit limit)
    (tracks_callWithin (context.withLimit limit) (Nat.zero_add _) hle) e

theorem tracks_renderAll (t : Template) :
    Tracks (context.withLimit limit') limit'
      (renderAll (context.withLimit limit) scope t.children)
      (renderAll (context.withLimit limit') scope t.children)
      (t.activations (context.withLimit limit) scope) := by
  rw [renderAll_eq, renderAll_eq]
  refine (tracks_evalAll (context.withLimit limit) fun e _ => ?_).bind _
  exact tracks_child context hle scope e

theorem tracks_evaluation (t : Template) :
    Tracks (context.withLimit limit') limit'
      (t.evaluation (context.withLimit limit) scope)
      (t.evaluation (context.withLimit limit') scope)
      (t.activations (context.withLimit limit) scope) := by
  have hrender := tracks_renderAll context hle scope t
  obtain ⟨es⟩ := t
  match es with
  | [e] =>
      have h := tracks_child context hle scope e
      -- nothing follows the only child
      rw [← Activations.andThen_nil (Evaluation.activations _ _ _ scope e)] at h
      exact h
  | [] => exact hrender.bind _
  | _ :: _ :: _ => exact hrender.bind _

end

end Template

/-- What one run tells of the runs under all limits, be the template rendered or
evaluated: if it does not end for want of depth, a limit that is at least the
greatest number of its calls that are active together changes nothing, and a
lower one ends the run at the first call that would be active above it. -/
theorem limit_exact (t : Template) (context : Context) (scope : Scope) (record : Record) :
    (¬ Exceeds (t.render context scope record).1 →
      LimitExact (fun d => t.render (context.withLimit d) scope record) context.limit
        (t.activations context scope record)) ∧
    (¬ Exceeds (t.evaluate context scope record).1 →
      LimitExact (fun d => t.evaluate (context.withLimit d) scope record) context.limit
        (t.activations context scope record)) := by
  refine ⟨fun hrun => ?_, fun hrun => ?_⟩
  · have htracks : ∀ n n', n' ≤ n → Tracks (context.withLimit n') _
        (renderAll (context.withLimit n) scope t.children) _ _ :=
      fun n n' hle => t.tracks_renderAll context hle scope
    exact limitExact_of_tracks htracks hrun
  · have htracks : ∀ n n', n' ≤ n → Tracks (context.withLimit n') _
        (t.evaluation (context.withLimit n) scope) _ _ :=
      fun n n' hle => t.tracks_evaluation context hle scope
    rw [t.evaluate_eq] at hrun
    simp only [t.evaluate_eq]
    exact limitExact_of_tracks htracks hrun

/-- A function that calls another one twice, called on the result of a call: four
calls, but no more than two are active together. Under a limit of one the inner
call of the body is refused. -/
theorem limit_exact_nested :
    let context : Context := ⟨Library.registry, Host.none, 0, 100⟩
    ∃ t, Template.parse .usual "<%= (fn(x) -> not(not(x)))(not(true)) %>" = .ok t ∧
      t.activations context .empty ⟨0, []⟩ =
        [⟨1, ⟨1, 31⟩⟩, ⟨1, ⟨1, 27⟩⟩, ⟨2, ⟨1, 22⟩⟩, ⟨2, ⟨1, 18⟩⟩] ∧
      (t.render context .empty ⟨0, []⟩).1 = .ok "false" ∧
      (t.render (context.withLimit 2) .empty ⟨0, []⟩).1 = .ok "false" ∧
      (t.render (context.withLimit 1) .empty ⟨0, []⟩).1 =
        .error ⟨.callDepthExceeded 1, ⟨1, 22⟩⟩ := by
  intro context
  let negation (l m : Location) (e : Expr) : Expr := .call m (.name l "not") [e]
  let f : Expr := .function ⟨1, 6⟩ ["x"]
    (negation ⟨1, 15⟩ ⟨1, 18⟩ (negation ⟨1, 19⟩ ⟨1, 22⟩ (.name ⟨1, 23⟩ "x")))
  let t : Template := ⟨[.call ⟨1, 27⟩ f [negation ⟨1, 28⟩ ⟨1, 31⟩ (.name ⟨1, 32⟩ "true")]]⟩
  have hread : Template.parse .usual "<%= (fn(x) -> not(not(x)))(not(true)) %>" = .ok t := by
    with_unfolding_all rfl
  have hcalls : t.activations context .empty ⟨0, []⟩ =
      [⟨1, ⟨1, 31⟩⟩, ⟨1, ⟨1, 27⟩⟩, ⟨2, ⟨1, 22⟩⟩, ⟨2, ⟨1, 18⟩⟩] := by
    with_unfolding_all rfl
  have htext : (t.render context .empty ⟨0, []⟩).1 = .ok "false" := by
    with_unfolding_all rfl
  have hexact := (limit_exact t context .empty ⟨0, []⟩).1 (by
    rw [htext]
    rintro ⟨n, l, h⟩
    cases h)
  rw [hcalls] at hexact
  refine ⟨t, hread, hcalls, htext, (congrArg Prod.fst (hexact.kept 2 (by decide))).trans htext, ?_⟩
  obtain ⟨a, hfirst, -, hfails⟩ := hexact.refused 1 (by decide)
  obtain rfl : ⟨2, ⟨1, 22⟩⟩ = a := Option.some.inj hfirst
  exact hfails

end Inlay
