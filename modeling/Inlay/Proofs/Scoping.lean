import Inlay.Report
import Inlay.Proofs.Failures
import Inlay.Proofs.Scopes
import Inlay.Proofs.Stacks
import Inlay.Proofs.Substitution

/-!
# Names mean what they meant where they were written

A name that a property binds to a string may be replaced by the string,
wherever no function around it binds the name: the template renders as the same
text or fails in the same way at the same place (`render_substitute`).

Two runs are compared, whose closures differ in body and captured scope. That a
closure is called where the name means something else is of no account: what
carries the proof is that the name means the string in the scope that each
closure captured, unless its place is under a binder of the name
(`Substituted.closure`).
-/

namespace Inlay

/-! ## Related values -/

/-- A value of the run of a template and its counterpart in the run of the
template with `v` put for `n`. `F` holds of the places where `v` is put, and
`bound` tells whether the function that a closure stems from is under a binder
of `n`. -/
inductive Substituted (F : Location → Prop) (n v : String) : Value → Value → Prop
  | integer (i : Int) : Substituted F n v (.integer i) (.integer i)
  | float (x : Binary64) : Substituted F n v (.float x) (.float x)
  | string (s : String) : Substituted F n v (.string s) (.string s)
  | boolean (b : Bool) : Substituted F n v (.boolean b) (.boolean b)
  | list (o : Origin) {vs ws : List Value} (h : List.Forall₂ (Substituted F n v) vs ws) :
      Substituted F n v (.list o vs) (.list o ws)
  | dictionary (o : Origin) {es fs : List (Value × Value)}
      (hkeys : List.Forall₂ (Substituted F n v) (es.map Prod.fst) (fs.map Prod.fst))
      (hvalues : List.Forall₂ (Substituted F n v) (es.map Prod.snd) (fs.map Prod.snd)) :
      Substituted F n v (.dictionary o es) (.dictionary o fs)
  | closure {ps : List String} {b : Expr} {fr gr : List Frame} {bound : Bool}
      (hfits : b.Fits F n (bound || ps.contains n))
      (hmeans : ∀ x : String,
        Option.Rel (Substituted F n v) ((Scope.mk fr).lookup x) ((Scope.mk gr).lookup x))
      (hname : bound = false → (Scope.mk fr).lookup n = some (.string v)) :
      Substituted F n v (.closure ps b fr)
        (.closure ps (b.substitute n v (bound || ps.contains n)) gr)
  | builtin {f : Function} {routine : StandardRoutine} (h : f.routine = .standard routine) :
      Substituted F n v (.builtin f) (.builtin f)

namespace Substituted

variable {F : Location → Prop} {n v : String}

theorem likeness : Likeness (Substituted F n v) where
  alike h := by
    cases h with
    | integer i => exact .integer i
    | float x => exact .float (.refl x)
    | string s => exact .string s
    | boolean b => exact .boolean b
    | list o h => exact .list o h
    | dictionary o hk hv => exact .dictionary o (forall₂_entryRel.mpr ⟨hk, hv⟩)
    | closure => exact .closure ..
    | builtin => exact .builtin _
  same h h' := by
    cases h with
    | closure hfits =>
        cases h' with
        | closure hfits' => exact (Expr.same_substitute v hfits hfits').symm
  body h := by
    cases h with
    | closure => exact (Expr.depth_substitute ..).symm
  nan h h' := by
    cases h
    cases h'
    rfl
  integer := .integer
  float _ := .float _
  string := .string
  boolean := .boolean
  list := .list .template
  dictionary h := .dictionary .template (forall₂_entryRel.mp h).1 (forall₂_entryRel.mp h).2

end Substituted

/-! ## Related errors -/

/-- What an error is, up to its message: its kind and its place. -/
def RenderError.kindAndPlace (e : RenderError) : String × Location :=
  (e.cause.kindName, e.location)

/-- Errors of one kind at one place. -/
def SameFailure (e e' : RenderError) : Prop := e.kindAndPlace = e'.kindAndPlace

theorem placed_sameFailure (R : Value → Value → Prop) (l : Location) :
    Evaluation.Placed R SameFailure l l :=
  ⟨fun _ => rfl, fun _ => rfl⟩

/-! ## The two runs -/

namespace Evaluation

section

variable {F : Location → Prop} {n v : String} {context : Context}
  (hstandard : ∀ f ∈ context.registry.functions, ∃ routine, f.routine = .standard routine)
include hstandard

theorem builtin_substituted :
    ∀ f ∈ context.registry.functions, Substituted F n v (.builtin f) (.builtin f) := by
  intro f hf
  obtain ⟨routine, hroutine⟩ := hstandard f hf
  exact .builtin hroutine

/-- An expression and the expression with the string put for the name agree, in
a scope where the name means the string unless the expression is under a binder
of it. -/
theorem agree_substitute {call call' : Stack → Caller}
    (hcall : ∀ (l : Location) {k k' : Stack} {w w' : Value} {ws ws' : List Value},
      Course.Fit ⟨Eq, True⟩ k k' → Substituted F n v w w' →
      List.Forall₂ (Substituted F n v) ws ws' →
      AgreeFrom ⟨Eq, True⟩ SameFailure (Substituted F n v) (call k l w ws) (call' k' l w' ws'))
    {s s' : Scope} (hs : s.Means (Substituted F n v) s') {bound : Bool}
    (hname : bound = false → s.lookup n = some (.string v)) {e : Expr}
    (he : e.Fits F n bound) :
    AgreeOn ⟨Eq, True⟩ SameFailure (Substituted F n v) (evalOn · context call s e)
      (evalOn · context call' s' (e.substitute n v bound)) := by
  have hR : Likeness (Substituted F n v) := Substituted.likeness
  have hl := placed_sameFailure (Substituted F n v)
  induction e using Expr.induction with
  | string l u =>
      rw [Expr.substitute]
      exact agree_string hR u
  | integer l i =>
      rw [Expr.substitute]
      exact agree_integer hR i
  | float l x =>
      rw [Expr.substitute]
      exact agree_float (.float x)
  | name l w =>
      by_cases hF : F l
      · -- the name means the string, which is what stands here in the other run; but for
        -- finding what it means the first run takes frames
        obtain ⟨hbound, rfl⟩ := (Expr.fits_name.mp he).mp hF
        subst hbound
        intro k k' _
        dsimp only
        rw [Expr.substitute_self, evalOn, evalOn, resolve, hname rfl]
        exact .requireAlone trivial k _ _ (.pure (.string v))
      · rw [he.substitute_name hF]
        exact agree_nameOf (agree_resolve hR (builtin_substituted hstandard) hs w fun _ _ => rfl)
  | member l b w ih =>
      rw [Expr.substitute]
      exact agree_memberOf hR (hl l) (ih (Expr.fits_member.mp he).2) w
  | index l b k ihb ihk =>
      obtain ⟨_, hb, hk⟩ := Expr.fits_index.mp he
      rw [Expr.substitute]
      exact agree_indexOf hR (hl l) (ihb hb) (ihk hk)
  | call l f es ihf ihes =>
      obtain ⟨_, hf, hes⟩ := Expr.fits_call.mp he
      rw [Expr.substitute, Expr.substituteAll_eq]
      exact agree_callOf (ihf hf) (hcall l) (List.forall₂_map_right_iff.mpr
        (List.forall₂_same.mpr fun e he => ihes e he (hes e he)))
  | choice l c a b ihc iha ihb =>
      obtain ⟨_, hc, ha, hb⟩ := Expr.fits_choice.mp he
      rw [Expr.substitute]
      exact agree_choice hR (hl l) (ihc hc) (iha ha) (ihb hb)
  | list l es ih =>
      rw [Expr.substitute, Expr.substituteAll_eq]
      exact agree_list hR (List.forall₂_map_right_iff.mpr
        (List.forall₂_same.mpr fun e he' => ih e he' ((Expr.fits_list.mp he).2 e he')))
  | dictionary l es ih =>
      rw [Expr.substitute, Expr.substituteEntries_eq]
      refine agree_dictionary hR (List.forall₂_map_right_iff.mpr
        (List.forall₂_same.mpr fun p hp => ?_))
      obtain ⟨hk, hv⟩ := (Expr.fits_dictionary.mp he).2 p hp
      exact ⟨Expr.location_substitute n v bound p.1 ▸ hl _, (ih p hp).1 hk, (ih p hp).2 hv⟩
  | function l ps b =>
      rw [Expr.substitute]
      exact agree_function (.closure (Expr.fits_function.mp he).2 hs hname)

/-- Calls of counterparts agree: the body runs in the scope that the closure
captured, where the name means the string, and binds it anew only if the body
is under a binder. -/
theorem agree_call (budget : Nat) (l : Location) {k k' : Stack} {w w' : Value}
    {ws ws' : List Value} (hk : Course.Fit ⟨Eq, True⟩ k k') (hw : Substituted F n v w w')
    (hws : List.Forall₂ (Substituted F n v) ws ws') :
    AgreeFrom ⟨Eq, True⟩ SameFailure (Substituted F n v) (callOn context budget k l w ws)
      (callOn context budget k' l w' ws') := by
  induction budget using Nat.strongRecOn generalizing l k k' w w' ws ws' with
  | ind budget ih =>
      have hl := placed_sameFailure (Substituted F n v) l
      refine agree_callOn Substituted.likeness hl rfl hk ?_ ?_ hw hws
      · intro f vs ws hf hvs
        cases hf with
        | builtin h =>
            exact agree_runRoutine Substituted.likeness hl (.eq fun _ => .float _) rfl h hvs
      · rintro left ps a b fr gr us us' d d' rfl hclosure hus - hd
        cases hclosure with
        | closure hfits hmeans hname =>
            refine agree_substitute hstandard (ih left (Nat.lt_succ_self left))
              (Scope.Means.child hmeans (Scope.zip_forall₂ ps hus)) ?_ hfits hd
            -- a body under no binder of the name has no parameter of that name
            intro hunbound
            obtain ⟨hbound, hps⟩ := Bool.or_eq_false_iff.mp hunbound
            rw [Scope.lookup_child_of_notMem _ (by simpa using hps)]
            exact hname hbound

/-- The children render as the same text with the string put for the name, unless the
stack ends before. -/
theorem agree_children (stack : Stack) {s : Scope} (hs : s.Means (Substituted F n v) s)
    (hname : s.lookup n = some (.string v)) {es : List Expr}
    (hes : ∀ e ∈ es, e.Fits F n false) :
    AgreeFrom ⟨Eq, True⟩ SameFailure Eq (renderAllOn stack context s es)
      (renderAllOn stack context s (Expr.substituteAll n v false es)) := by
  have hR : Likeness (Substituted F n v) := Substituted.likeness
  rw [Expr.substituteAll_eq]
  refine agree_renderAll hR (List.forall₂_map_right_iff.mpr
    (List.forall₂_same.mpr fun e he => ?_)) (.refl stack)
  exact agree_substitute hstandard (agree_call hstandard _) hs (fun _ => hname) (hes e he)

end

end Evaluation

/-! ## Rendering -/

/-- On every stack a template renders as the same text, or fails in the same way at the
same place, when the string that a property binds a name to is put for the name, and it
leaves the same record; unless the stack ends while the template is rendered as it is. A
stack without end never does. -/
theorem render_substitute {reader : Reader.Stack} {text : String} {t : Template}
    (h : Template.parse reader text = .ok t) {n v : String} {before after : List Property}
    (hlast : ∀ p ∈ after, p.name ≠ n) {context : Context}
    (hlibrary : context.registry = Library.registry) (stack : Evaluation.Stack)
    (record : Record) :
    let scope := Scope.ofProperties (before ++ ⟨n, v⟩ :: after)
    let plain := t.renderOn stack context scope record
    let replaced := (t.substitute n v).renderOn stack context scope record
    (t.Exhausts stack context scope record ∨
      (plain.1.mapError RenderError.kindAndPlace = replaced.1.mapError RenderError.kindAndPlace ∧
        plain.2 = replaced.2)) ∧
    ¬ t.Exhausts .endless context scope record := by
  have hagree := Evaluation.agree_children (hlibrary ▸ registry_standard) stack
    (Scope.means_ofProperties (Substituted.string (F := t.Replaced n) (n := n) (v := v))
      (before ++ ⟨n, v⟩ :: after))
    (Scope.lookup_ofProperties hlast v) (parse_fits h n)
  exact ⟨(Evaluation.settle_mapError rfl .start hagree record).imp_left And.right,
    Template.not_exhausts_endless hlibrary⟩

/-- A function that is called where the name is bound anew: it still gives what
the property says. -/
theorem render_substitute_closure :
    let context : Context := ⟨Library.registry, Host.none, 0, 8⟩
    let scope := Scope.ofProperties ([⟨"n", "a"⟩] ++ ⟨"n", "v"⟩ :: [⟨"m", "b"⟩])
    ∃ t, Template.parse .usual "<%= (fn(n, f) -> f())(1, fn() -> n) %>" = .ok t ∧
      (t.renderOn .usual context scope ⟨0, []⟩).1.mapError RenderError.kindAndPlace = .ok "v" ∧
      ((t.substitute "n" "v").renderOn .usual context scope ⟨0, []⟩).1.mapError
        RenderError.kindAndPlace = .ok "v" := by
  let context : Context := ⟨Library.registry, Host.none, 0, 8⟩
  let t : Template :=
    ⟨[.call ⟨1, 22⟩ (.function ⟨1, 6⟩ ["n", "f"] (.call ⟨1, 19⟩ (.name ⟨1, 18⟩ "f") []))
      [.integer ⟨1, 23⟩ 1, .function ⟨1, 26⟩ [] (.name ⟨1, 34⟩ "n")]]⟩
  have hread : Template.parse .usual "<%= (fn(n, f) -> f())(1, fn() -> n) %>" = .ok t := by
    with_unfolding_all rfl
  have hplain : (t.renderOn .usual context
      (Scope.ofProperties ([⟨"n", "a"⟩] ++ ⟨"n", "v"⟩ :: [⟨"m", "b"⟩])) ⟨0, []⟩).1.mapError
        RenderError.kindAndPlace = .ok "v" := by
    with_unfolding_all rfl
  have hlast : ∀ p ∈ [(⟨"m", "b"⟩ : Property)], p.name ≠ "n" := by simp
  have hends : ¬ t.Exhausts .usual context
      (Scope.ofProperties ([⟨"n", "a"⟩] ++ ⟨"n", "v"⟩ :: [⟨"m", "b"⟩])) ⟨0, []⟩ := by
    intro hends
    rw [hends.renderOn] at hplain
    cases hplain
  obtain ⟨hsame, -⟩ :=
    (render_substitute hread hlast (rfl : context.registry = _) .usual ⟨0, []⟩).1.resolve_left hends
  exact ⟨t, hread, hplain, hsame.symm.trans hplain⟩

/-- At the end of a stack the two differ. To find what a name means takes three frames,
which the string does not: with the name no frame is left for the lookup, with the string
the function is called and its value has no members. -/
theorem name_before_string :
    let context : Context := ⟨Library.registry, Host.none, 0, 8⟩
    let scope := Scope.ofProperties [⟨"n", "x"⟩]
    let stack : Evaluation.Stack := { Evaluation.Stack.usual with room := 7 }
    ∃ t, Template.parse .usual "<%= (fn(y) -> 0)(n).a %>" = .ok t ∧
      (t.renderOn stack context scope ⟨0, []⟩).1.mapError RenderError.kindAndPlace =
        .error ("CallDepthExceeded", ⟨1, 1⟩) ∧
      ((t.substitute "n" "x").renderOn stack context scope ⟨0, []⟩).1.mapError
        RenderError.kindAndPlace = .error ("TypeMismatch", ⟨1, 20⟩) := by
  let t : Template :=
    ⟨[.member ⟨1, 20⟩ (.call ⟨1, 17⟩ (.function ⟨1, 6⟩ ["y"] (.integer ⟨1, 15⟩ 0))
      [.name ⟨1, 18⟩ "n"]) "a"]⟩
  have hread : Template.parse .usual "<%= (fn(y) -> 0)(n).a %>" = .ok t := by
    with_unfolding_all rfl
  refine ⟨t, hread, ?_, ?_⟩ <;> with_unfolding_all rfl

end Inlay
