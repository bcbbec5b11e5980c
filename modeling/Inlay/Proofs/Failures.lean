import Inlay.Expr.Reader
import Inlay.Proofs.Invariants
import Inlay.Proofs.Stacks

/-!
# Where a template fails

A template that fails to render fails at one of its nodes, for a reason that a
node of that sort can have (`Expr.Raises`): a name that means nothing, an access
that misses, a call that goes wrong, a condition that is no Boolean, a key that
cannot be one. Whatever evaluations stand around the one that fails, closure
calls among them, hand the error on as it is (`render_fails_at_node`).

The closures that a run calls stem from function literals of the template
(`Value.Stems`), as the library makes none of its own; so the nodes that are
evaluated in their bodies are nodes of the template too.
-/

namespace Inlay

open Evaluation

/-! ## Nodes and their errors -/

/-- The errors that a node of an expression may raise by itself, with the place
that they are reported at. -/
inductive Expr.Raises : Expr → RenderError → Prop
  | unresolved (l : Location) (w : String) : Raises (.name l w) ⟨.unresolved w, l⟩
  | memberOf (l : Location) (b : Expr) (w t : String) :
      Raises (.member l b w) ⟨.typeMismatch (.memberOf w t), l⟩
  | memberNotFound (l : Location) (b : Expr) (w : String) :
      Raises (.member l b w) ⟨.memberNotFound (.string w), l⟩
  | listIndex (l : Location) (b k : Expr) (t : String) :
      Raises (.index l b k) ⟨.typeMismatch (.listIndex t), l⟩
  | notAKey (l : Location) (b k : Expr) (t : String) :
      Raises (.index l b k) ⟨.typeMismatch (.notAKey t), l⟩
  | notIndexable (l : Location) (b k : Expr) (t : String) :
      Raises (.index l b k) ⟨.typeMismatch (.notIndexable t), l⟩
  | keyNotFound (l : Location) (b k : Expr) (v : Value) :
      Raises (.index l b k) ⟨.memberNotFound v, l⟩
  | indexOutOfRange (l : Location) (b k : Expr) (i : Int) (length : Nat) :
      Raises (.index l b k) ⟨.indexOutOfRange i length, l⟩
  | arityMismatch (l : Location) (f : Expr) (es : List Expr) (wanted given : Nat) :
      Raises (.call l f es) ⟨.arityMismatch wanted given, l⟩
  | callFailed (l : Location) (f : Expr) (es : List Expr) (name : String)
      (failure : CallFailure) : Raises (.call l f es) ⟨.callFailed name failure, l⟩
  | callDepthExceeded (l : Location) (f : Expr) (es : List Expr) (limit : Int) :
      Raises (.call l f es) ⟨.callDepthExceeded limit, l⟩
  | notCallable (l : Location) (f : Expr) (es : List Expr) (t : String) :
      Raises (.call l f es) ⟨.typeMismatch (.notCallable t), l⟩
  | condition (l : Location) (c a b : Expr) (t : String) :
      Raises (.choice l c a b) ⟨.typeMismatch (.condition t), l⟩
  | key (l : Location) {es : List (Expr × Expr)} {p : Expr × Expr} (h : p ∈ es) (t : String) :
      Raises (.dictionary l es) ⟨.typeMismatch (.notAKey t), p.1.location⟩

/-- How a node's own failure ends an evaluation on a stack without end: with one of its
errors. -/
inductive Expr.Halts (e : Expr) : Halt → Prop
  | error {err : RenderError} (h : e.Raises err) : Halts e (.error err)

/-! ## Closures of the template -/

/-- A value whose closures have bodies among `nodes`, and whose functions are
those of the library. -/
inductive Value.Stems (nodes : List Expr) : Value → Prop
  | integer (n : Int) : Stems nodes (.integer n)
  | float (x : Binary64) : Stems nodes (.float x)
  | string (s : String) : Stems nodes (.string s)
  | boolean (b : Bool) : Stems nodes (.boolean b)
  | list (o : Origin) {vs : List Value} (h : ∀ v ∈ vs, Stems nodes v) : Stems nodes (.list o vs)
  | dictionary (o : Origin) {es : List (Value × Value)} (hkeys : ∀ p ∈ es, Stems nodes p.1)
      (hvalues : ∀ p ∈ es, Stems nodes p.2) : Stems nodes (.dictionary o es)
  | closure (ps : List String) {b : Expr} {frames : List Frame} (hnodes : b.nodes ⊆ nodes)
      (hframes : ∀ frame ∈ frames, ∀ p ∈ frame, Stems nodes p.2) :
      Stems nodes (.closure ps b frames)
  | builtin {f : Function} {routine : StandardRoutine} (h : f.routine = .standard routine) :
      Stems nodes (.builtin f)

namespace Value.Stems

variable {nodes : List Expr}

/-- A value with itself, if its closures stem from the nodes. -/
def Kept (nodes : List Expr) (v w : Value) : Prop := v = w ∧ v.Stems nodes

theorem hereditary : Hereditary (Stems nodes) where
  integer := .integer
  float := .float
  string := .string
  boolean := .boolean
  list {o vs} := by
    constructor
    · rintro ⟨⟩
      assumption
    · exact .list o
  dictionary {o es} := by
    constructor
    · intro h
      cases h with
      | dictionary _ hkeys hvalues => exact fun p hp => ⟨hkeys p hp, hvalues p hp⟩
    · exact fun h => .dictionary o (fun p hp => (h p hp).1) fun p hp => (h p hp).2

/-- No operation of the language makes a closure that does not stem from the
nodes, if it was given none. -/
theorem likeness : Likeness (Kept nodes) := hereditary.likeness

/-- A routine of the library returns nothing that does not stem from the nodes. -/
theorem run {s : Surroundings} {routine : StandardRoutine} {vs : List Value} {v : Value}
    (hvs : ∀ v ∈ vs, v.Stems nodes) (h : routine.run s vs = .ok v) : v.Stems nodes := by
  have hs : s.Related (Kept nodes) s := ⟨rfl, rfl, .float _⟩
  have hrun := likeness.run hs routine (forall₂_self_iff.mpr ⟨rfl, hvs⟩)
  rw [h] at hrun
  cases hrun with
  | ok hv => exact hv.2

/-- The closures of a run stem from the nodes of its template. -/
theorem keeps {context : Context} (hstandard : ∀ f ∈ context.registry.functions,
    ∃ routine, f.routine = .standard routine) :
    Keeps context (· ∈ nodes) (fun _ => True) (Stems nodes) where
  integer _ := .integer _
  float := .float
  string := .string
  boolean := .boolean
  builtin f hf := by
    obtain ⟨routine, h⟩ := hstandard f hf
    exact .builtin h
  list := hereditary.list.mpr
  elements := hereditary.list.mp
  dictionary {es} h := by
    have hes : List.Forall₂ (EntryRel (Kept nodes)) es es :=
      forall₂_entries_self_iff.mpr ⟨rfl, fun p hp => (h p hp).2⟩
    exact (likeness.dictionary (Likeness.putAll likeness.sameKey_respects hes)).2
  values h p hp := (hereditary.dictionary.mp h p hp).2
  closure {ps b frames} := by
    constructor
    · intro h
      cases h with
      | closure _ hnodes hframes => exact ⟨fun n hn => hnodes hn, hframes⟩
    · rintro ⟨hnodes, hframes⟩
      exact .closure ps (fun n hn => hnodes n hn) hframes
  routine {f l vs r r' v} hf hvs h := by
    cases hf with
    | @builtin f routine hroutine =>
        rw [runRoutine_standard context l hroutine] at h
        cases hrun : routine.run ⟨context.clock, r.calls⟩ vs with
        | ok u =>
            rw [hrun] at h
            cases h
            exact run (fun v hv => (hvs v hv).1) hrun
        | error fault =>
            rw [hrun] at h
            cases h

end Value.Stems

/-! ## Failures of a node's own -/

section

variable {context : Context} {l : Location} {r r' : Record} {h : Halt}

theorem halts_resolve {s : Scope} {w : String} (hfails : resolve context s l w r = (.error h, r')) :
    (Expr.name l w).Halts h := by
  unfold resolve at hfails
  cases hv : s.lookup w with
  | some u =>
      rw [hv] at hfails
      cases hfails
  | none =>
      rw [hv] at hfails
      cases hf : context.registry.find? w with
      | some f =>
          simp only [hf] at hfails
          cases hfails
      | none =>
          simp only [hf] at hfails
          split_ifs at hfails <;> cases hfails
          exact .error (.unresolved l w)

theorem halts_member {b : Expr} {u : Value} {w : String}
    (hfails : member l u w r = (.error h, r')) : (Expr.member l b w).Halts h := by
  unfold member at hfails
  cases u with
  | dictionary o es =>
      cases hv : Dictionary.getName? o es w with
      | some v =>
          simp only [hv] at hfails
          cases hfails
      | none =>
          simp only [hv] at hfails
          cases hfails
          exact .error (.memberNotFound l b w)
  | _ =>
      cases hfails
      exact .error (.memberOf l b w _)

theorem halts_index {b k : Expr} {u i : Value} (hfails : index l u i r = (.error h, r')) :
    (Expr.index l b k).Halts h := by
  unfold index at hfails
  cases u with
  | list o vs =>
      cases i with
      | integer i =>
          dsimp only at hfails
          split_ifs at hfails
          · cases hv : vs[i.toNat]? with
            | some v =>
                rw [hv] at hfails
                cases hfails
            | none =>
                rw [hv] at hfails
                cases hfails
                exact .error (.indexOutOfRange l b k i _)
          · cases hfails
            exact .error (.indexOutOfRange l b k i _)
      | _ =>
          cases hfails
          exact .error (.listIndex l b k _)
  | dictionary o es =>
      dsimp only at hfails
      cases hv : Dictionary.lookup o es i with
      | error fault =>
          rw [hv] at hfails
          cases hfails
          exact .error (.notAKey l b k _)
      | ok found =>
          rw [hv] at hfails
          cases found with
          | some v => cases hfails
          | none =>
              cases hfails
              exact .error (.keyNotFound l b k i)
  | _ =>
      cases hfails
      exact .error (.notIndexable l b k _)

variable {f : Expr} {es : List Expr}

theorem halts_builtin {n : Nat} {g : Function} {routine : StandardRoutine}
    (hg : g.routine = .standard routine) {vs : List Value}
    (hfails : callWithin context n l (.builtin g) vs r = (.error h, r')) :
    (Expr.call l f es).Halts h := by
  rw [callWithin_eq] at hfails
  dsimp only at hfails
  split_ifs at hfails
  · cases hfails
    exact .error (.callFailed l f es _ _)
  · cases hfails
    exact .error (.callDepthExceeded l f es _)
  · rw [bind_eq, runRoutine_standard context l hg] at hfails
    cases hrun : routine.run ⟨context.clock, r.calls⟩ vs with
    | ok v =>
        simp only [hrun] at hfails
        split_ifs at hfails <;> cases hfails
        exact .error (.callFailed l f es _ _)
    | error fault =>
        simp only [hrun] at hfails
        cases hfails
        exact .error (.callFailed l f es _ _)

/-- A call of a closure fails by itself only before the body is begun. -/
theorem halts_closure {n : Nat} {ps : List String} {b : Expr} {frames : List Frame}
    {vs : List Value}
    (hbody : ∀ left, n = left + 1 → vs.length = ps.length → ∃ v r'',
      eval context (callWithin context left) ((Scope.mk frames).child (ps.zip vs)) b r =
        (.ok v, r''))
    (hfails : callWithin context n l (.closure ps b frames) vs r = (.error h, r')) :
    (Expr.call l f es).Halts h := by
  by_cases hlength : vs.length = ps.length
  · cases n with
    | zero =>
        rw [callWithin_eq] at hfails
        dsimp only at hfails
        rw [if_neg (not_not.mpr hlength)] at hfails
        cases hfails
        exact .error (.callDepthExceeded l f es _)
    | succ left =>
        obtain ⟨v, r'', hv⟩ := hbody left rfl hlength
        rw [callWithin_closure hlength, hv] at hfails
        cases hfails
  · rw [callWithin_eq] at hfails
    dsimp only at hfails
    rw [if_pos hlength] at hfails
    cases hfails
    exact .error (.arityMismatch l f es _ _)

end

/-- An evaluation that fails by itself does so with an error of its node. -/
theorem Visit.Raises.halts {context : Context} {x : Visit} {h : Halt} {r : Record}
    (hraises : x.Raises context h r)
    (hstandard : ∀ {z : Visit} {f : Function} {r : Record}, Visit.Starts context x z →
      z.run context = (.ok (.builtin f), r) → ∃ routine, f.routine = .standard routine) :
    x.expr.Halts h := by
  obtain ⟨hfails, hstarted⟩ := hraises
  obtain ⟨n, s, e, r₀⟩ := x
  unfold Visit.run at hfails
  dsimp only at hfails ⊢
  cases e with
  | string | integer | float | function => cases hfails
  | name l w =>
      rw [eval_name] at hfails
      exact halts_resolve hfails
  | member l b w =>
      obtain ⟨u, r₁, hu⟩ := hstarted _ .member
      rw [eval_member, bind_of_ok hu] at hfails
      exact halts_member hfails
  | index l b k =>
      obtain ⟨u, r₁, hu⟩ := hstarted _ .base
      obtain ⟨i, r₂, hi⟩ := hstarted _ (.key hu)
      rw [eval_index, bind_of_ok hu, bind_of_ok hi] at hfails
      exact halts_index hfails
  | call l f es =>
      obtain ⟨u, r₁, hu⟩ := hstarted _ .callee
      obtain ⟨vs, r₂, hvs⟩ := evalAll_ok fun e r' hto => hstarted _ (.argument hu hto)
      rw [eval_call, bind_of_ok hu, bind_of_ok hvs] at hfails
      cases u with
      | builtin g =>
          obtain ⟨routine, hg⟩ := hstandard .callee hu
          exact halts_builtin hg hfails
      | closure ps b frames =>
          refine halts_closure (fun left hleft hlength => ?_) hfails
          subst hleft
          exact hstarted _ (.body hu hvs hlength)
      | _ =>
          rw [callWithin_eq] at hfails
          cases hfails
          exact .error (.notCallable l f es _)
  | choice l c a b =>
      obtain ⟨u, r₁, hu⟩ := hstarted _ .condition
      rw [eval_choice, bind_of_ok hu] at hfails
      cases u with
      | boolean x =>
          cases x with
          | true =>
              obtain ⟨v, r₂, hv⟩ := hstarted _ (.yes hu)
              cases hfails.symm.trans hv
          | false =>
              obtain ⟨v, r₂, hv⟩ := hstarted _ (.no hu)
              cases hfails.symm.trans hv
      | _ =>
          cases hfails
          exact .error (.condition l c a b _)
  | list l es =>
      obtain ⟨vs, r₁, hvs⟩ := evalAll_ok fun e r' hto => hstarted _ (.element hto)
      rw [eval_list, bind_of_ok hvs] at hfails
      cases hfails
  | dictionary l es =>
      rcases evalEntries_ok_or_fault (fun e r' hto => hstarted _ (.entryKey hto))
          (fun e r' hto => hstarted _ (.entryValue hto)) with
        ⟨ps, r₁, hps⟩ | ⟨p, hp, t, r₁, hps⟩
      · rw [eval_dictionary, bind_of_ok hps] at hfails
        cases hfails
      · rw [eval_dictionary, bind_of_error hps] at hfails
        cases hfails
        exact .error (.key l hp t)

/-! ## Rendering -/

/-- A rendering that ends early is ended by a node of the template. -/
theorem Template.halts_of_renderAll {t : Template} {properties : List Property} {context : Context}
    (hlibrary : context.registry = Library.registry) {record r : Record} {h : Halt}
    (hrun : renderAll context (.ofProperties properties) t.children record = (.error h, r)) :
    ∃ n ∈ Expr.nodesAll t.children, n.Halts h := by
  have hkeeps : Keeps context (· ∈ Expr.nodesAll t.children) (fun _ => True)
      (Value.Stems (Expr.nodesAll t.children)) := Value.Stems.keeps (hlibrary ▸ registry_standard)
  obtain ⟨x, hx, hraises⟩ := Template.exists_raises_of_renderAll hrun
  have hfits : ∀ y, t.Visits context (.ofProperties properties) record y → y.Fits _ _ :=
    fun y hy => hkeeps.visits (fun _ hn => hn) (Frame.all_ofProperties .string properties)
      (fun _ _ _ _ _ => trivial) hy
  refine ⟨x.expr, (hfits x hx).nodes _ (Expr.self_mem_nodes _),
    hraises.halts fun {z f r} hs hf => ?_⟩
  cases hkeeps.value (hfits z (hx.step hs)) (fun _ _ _ _ _ => trivial) hf with
  | builtin h => exact ⟨_, h⟩

/-- With the functions of the library no template comes to the end of a stack that has
none. -/
theorem Template.not_exhausts_endless {t : Template} {properties : List Property}
    {context : Context} (hlibrary : context.registry = Library.registry) {record : Record} :
    ¬ t.Exhausts .endless context (.ofProperties properties) record := by
  intro h
  obtain ⟨n, -, hhalts⟩ := halts_of_renderAll hlibrary (Prod.ext h rfl)
  cases hhalts

/-- With the functions of the library a template renders as a text, or it fails
with an error that a node of it raises. An error that comes up in any
evaluation of the run, be it of a closure's body, is that of the evaluation
which started it, and that of the rendering. -/
theorem render_fails_at_node (t : Template) (properties : List Property) (host : Host)
    (clock : Int) (limit : Nat) (record : Record) :
    let context : Context := ⟨Library.registry, host, clock, limit⟩
    let scope := Scope.ofProperties properties
    let outcome := t.render context scope record
    ((∃ text, outcome.1 = .ok text) ∨
      ∃ e, outcome.1 = .error e ∧ ∃ n ∈ Expr.nodesAll t.children, n.Raises e) ∧
    ∀ x, t.Visits context scope record x → ∀ (e : RenderError) (r : Record),
      x.run context = (.error (.error e), r) → outcome = (.error e, r) ∧
        ∀ y, Visit.Starts context y x → y.run context = (.error (.error e), r) := by
  intro context scope outcome
  constructor
  · cases hrun : renderAll context scope t.children record with
    | mk result r =>
        cases result with
        | ok text => exact .inl ⟨text, settle_eq_ok.mpr (congrArg Prod.fst hrun)⟩
        | error h =>
            obtain ⟨n, hn, hhalts⟩ := Template.halts_of_renderAll rfl hrun
            cases hhalts with
            | @error err herr =>
                exact .inr ⟨err, settle_eq_error.mpr (.inl (congrArg Prod.fst hrun)), n, hn, herr⟩
  · intro x hx e r hfails
    refine ⟨?_, fun y hs => Visit.run_of_starts hs hfails⟩
    have hrun : renderAllOn .endless context scope t.children record = (.error (.error e), r) :=
      Template.renderAll_of_visits hx hfails
    simp only [outcome, Template.render, Template.renderOn, settle, hrun]

/-- A body that asks an integer for a member: the error has the place of the
dot in the body, and it is the error of the call and of the template. -/
theorem render_fails_at_node_body :
    let context : Context := ⟨Library.registry, Host.none, 0, 8⟩
    let scope := Scope.ofProperties []
    let body : Expr := .member ⟨1, 16⟩ (.name ⟨1, 15⟩ "x") "a"
    let error : RenderError := ⟨.typeMismatch (.memberOf "a" "Integer"), ⟨1, 16⟩⟩
    ∃ t, Template.parse .usual "<%= (fn(x) -> x.a)(1) %>" = .ok t ∧
      body ∈ Expr.nodesAll t.children ∧ body.Raises error ∧
      t.render context scope ⟨0, []⟩ = (.error error, ⟨0, []⟩) := by
  intro context scope body error
  let f : Expr := .function ⟨1, 6⟩ ["x"] body
  let t : Template := ⟨[.call ⟨1, 19⟩ f [.integer ⟨1, 20⟩ 1]]⟩
  have hread : Template.parse .usual "<%= (fn(x) -> x.a)(1) %>" = .ok t := by
    with_unfolding_all rfl
  have hcall : t.Visits context scope ⟨0, []⟩
      ⟨7 + 1, scope, .call ⟨1, 19⟩ f [.integer ⟨1, 20⟩ 1], ⟨0, []⟩⟩ :=
    .child (comesTo_head _ [] _)
  have hbody : t.Visits context scope ⟨0, []⟩
      ⟨7, (Scope.mk scope.frames).child (["x"].zip [.integer 1]), body, ⟨0, []⟩⟩ :=
    hcall.step (.body rfl (by with_unfolding_all rfl) rfl)
  have hfails : Visit.run context
      ⟨7, (Scope.mk scope.frames).child (["x"].zip [.integer 1]), body, ⟨0, []⟩⟩ =
        (.error (.error error), ⟨0, []⟩) := by
    with_unfolding_all rfl
  have hnode : body ∈ Expr.nodesAll t.children := by
    simp [t, f, Expr.nodesAll, Expr.nodes, body]
  exact ⟨t, hread, hnode, .memberOf _ _ _ _,
    ((render_fails_at_node t [] Host.none 0 8 ⟨0, []⟩).2 _ hbody error _ hfails).1⟩

end Inlay
