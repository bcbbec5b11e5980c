import Inlay.Proofs.Failures
import Inlay.Proofs.Joining
import Inlay.Proofs.Stacks
import Inlay.Proofs.WellFormed
import Inlay.Report

/-!
# Templates one after another

A template put behind another one renders as what the two render as alone
(`render_append`). Its part of the run differs from its own run in two ways: its
nodes stand at other places, and calls have been counted before it starts.

Places show in a run where closures are compared, and there only as equal or
different, so a one-to-one map of places goes unnoticed. The count of calls
shows in which not-a-number is which; counterparts are those that were made
equally many calls after the start of either run (`Moved.nan`). The one error
whose place does not move is that of a stack which comes to its end: it stands at the
start of whatever template is rendered.
-/

namespace Inlay

/-! ## Related values -/

/-- A value of a run that starts with `c` calls counted, and its counterpart in
the run of the same source at places moved by `f` that starts with `c'`. -/
inductive Moved (f : Location → Location) (c c' : Nat) : Value → Value → Prop
  | integer (i : Int) : Moved f c c' (.integer i) (.integer i)
  | float {x : Binary64} (h : x.isNaN = false) : Moved f c c' (.float x) (.float x)
  | nan {p q : Nat} (h : p + c' = q + c) : Moved f c c' (.float (.nan p)) (.float (.nan q))
  | string (s : String) : Moved f c c' (.string s) (.string s)
  | boolean (b : Bool) : Moved f c c' (.boolean b) (.boolean b)
  | list (o : Origin) {vs ws : List Value} (h : List.Forall₂ (Moved f c c') vs ws) :
      Moved f c c' (.list o vs) (.list o ws)
  | dictionary (o : Origin) {es fs : List (Value × Value)}
      (hkeys : List.Forall₂ (Moved f c c') (es.map Prod.fst) (fs.map Prod.fst))
      (hvalues : List.Forall₂ (Moved f c c') (es.map Prod.snd) (fs.map Prod.snd)) :
      Moved f c c' (.dictionary o es) (.dictionary o fs)
  | closure {ps : List String} {b : Expr} {fr gr : List Frame} (hbody : b.WellFormed)
      (hmeans : ∀ x : String,
        Option.Rel (Moved f c c') ((Scope.mk fr).lookup x) ((Scope.mk gr).lookup x)) :
      Moved f c c' (.closure ps b fr) (.closure ps (b.relocate f) gr)
  | builtin {g : Function} {routine : StandardRoutine} (h : g.routine = .standard routine) :
      Moved f c c' (.builtin g) (.builtin g)

namespace Moved

variable {f : Location → Location} {c c' : Nat}

theorem likeness (hf : Function.Injective f) : Likeness (Moved f c c') where
  alike h := by
    cases h with
    | integer i => exact .integer i
    | float h => exact .float (.number h)
    | nan => exact .float (.nan _ _)
    | string s => exact .string s
    | boolean b => exact .boolean b
    | list o h => exact .list o h
    | dictionary o hk hv => exact .dictionary o (forall₂_entryRel.mpr ⟨hk, hv⟩)
    | closure => exact .closure ..
    | builtin => exact .builtin _
  same h h' := by
    cases h with
    | closure =>
        cases h' with
        | closure => exact (Expr.same_relocate hf _ _).symm
  body h := by
    cases h with
    | closure => exact (Expr.depth_relocate ..).symm
  nan h h' := by
    cases h with
    | float hnan => cases hnan
    | nan hp =>
        cases h' with
        | float hnan => cases hnan
        | nan hq => omega
  integer := .integer
  float := .float
  string := .string
  boolean := .boolean
  list := .list .template
  dictionary h := .dictionary .template (forall₂_entryRel.mp h).1 (forall₂_entryRel.mp h).2

end Moved

/-! ## The two runs -/

/-- An error and its counterpart: one of the same kind, at the moved place. -/
def FailsMoved (f : Location → Location) (e e' : RenderError) : Prop :=
  e'.cause.kindName = e.cause.kindName ∧ e'.location = f e.location

/-- Records of two runs that started with `c` and `c'` calls counted and have
counted equally many since. -/
def Ahead (c c' : Nat) (r r' : Record) : Prop := r.calls + c' = r'.calls + c

/-- Two runs that started so, on one stack. -/
abbrev Evaluation.Abreast (c c' : Nat) : Course := ⟨Ahead c c', False⟩

namespace Evaluation

section

variable {f : Location → Location} (hf : Function.Injective f) {c c' : Nat} {context : Context}
  (hstandard : ∀ g ∈ context.registry.functions, ∃ routine, g.routine = .standard routine)

theorem placed_failsMoved (R : Value → Value → Prop) (l : Location) :
    Placed R (FailsMoved f) l (f l) :=
  ⟨fun _ => ⟨rfl, rfl⟩, fun _ => ⟨rfl, rfl⟩⟩

theorem pace_ahead : Pace (Moved f c c') (Ahead c c') where
  fresh h := .nan h
  counted h := by
    unfold Ahead at h ⊢
    dsimp only
    omega

include hstandard in
theorem builtin_moved :
    ∀ g ∈ context.registry.functions, Moved f c c' (.builtin g) (.builtin g) := by
  intro g hg
  obtain ⟨routine, hroutine⟩ := hstandard g hg
  exact .builtin hroutine

include hf hstandard

/-- An expression agrees with itself at other places, in scopes that mean the
same. -/
theorem agree_relocate {call call' : Stack → Caller}
    (hcall : ∀ (l : Location) {k k' : Stack} {w w' : Value} {ws ws' : List Value},
      (Abreast c c').Fit k k' → Moved f c c' w w' → List.Forall₂ (Moved f c c') ws ws' →
      AgreeFrom (Abreast c c') (FailsMoved f) (Moved f c c') (call k l w ws)
        (call' k' (f l) w' ws'))
    {s s' : Scope} (hs : s.Means (Moved f c c') s') {e : Expr} (he : e.WellFormed) :
    AgreeOn (Abreast c c') (FailsMoved f) (Moved f c c') (evalOn · context call s e)
      (evalOn · context call' s' (e.relocate f)) := by
  have hR : Likeness (Moved f c c') := Moved.likeness hf
  have hl := placed_failsMoved (f := f) (Moved f c c')
  induction he with
  | string =>
      rw [Expr.relocate]
      exact agree_string hR _
  | integer =>
      rw [Expr.relocate]
      exact agree_integer hR _
  | float hx =>
      rw [Expr.relocate]
      exact agree_float (.float (Binary64.isNaN_of_isFinite hx))
  | name hw =>
      rw [Expr.relocate]
      exact agree_nameOf
        (agree_resolve hR (builtin_moved hstandard) hs _ fun _ _ => ⟨rfl, rfl⟩)
  | member hb hw ih =>
      rw [Expr.relocate]
      exact agree_memberOf hR (hl _) ih _
  | index hb hk ihb ihk =>
      rw [Expr.relocate]
      exact agree_indexOf hR (hl _) ihb ihk
  | call hg hes ihg ihes =>
      rw [Expr.relocate, Expr.relocateAll_eq]
      exact agree_callOf ihg (hcall _)
        (List.forall₂_map_right_iff.mpr (List.forall₂_same.mpr ihes))
  | choice hc ha hb ihc iha ihb =>
      rw [Expr.relocate]
      exact agree_choice hR (hl _) ihc iha ihb
  | list hes ih =>
      rw [Expr.relocate, Expr.relocateAll_eq]
      exact agree_list hR (List.forall₂_map_right_iff.mpr (List.forall₂_same.mpr ih))
  | dictionary hk hv ihk ihv =>
      rw [Expr.relocate, Expr.relocateEntries_eq]
      refine agree_dictionary hR (List.forall₂_map_right_iff.mpr
        (List.forall₂_same.mpr fun p hp => ⟨?_, ihk p hp, ihv p hp⟩))
      rw [Expr.location_relocate]
      exact hl _
  | function hps hd hb ih =>
      rw [Expr.relocate]
      exact agree_function (.closure hb hs)

/-- Calls of counterparts agree: the body runs at the other places, in a scope
that means the same. -/
theorem agree_movedCall (budget : Nat) (l : Location) {k k' : Stack} {w w' : Value}
    {ws ws' : List Value} (hk : (Abreast c c').Fit k k') (hw : Moved f c c' w w')
    (hws : List.Forall₂ (Moved f c c') ws ws') :
    AgreeFrom (Abreast c c') (FailsMoved f) (Moved f c c') (callOn context budget k l w ws)
      (callOn context budget k' (f l) w' ws') := by
  induction budget using Nat.strongRecOn generalizing l k k' w w' ws ws' with
  | ind budget ih =>
      have hl := placed_failsMoved (f := f) (Moved f c c') l
      refine agree_callOn (Moved.likeness hf) hl rfl hk ?_ ?_ hw hws
      · intro g vs us hg hvs
        cases hg with
        | builtin h => exact agree_runRoutine (Moved.likeness hf) hl pace_ahead rfl h hvs
      · rintro left ps a b fr gr us us' d d' rfl hclosure hus - hd
        cases hclosure with
        | closure hbody hmeans =>
            exact agree_relocate hf hstandard (ih left (Nat.lt_succ_self left))
              (Scope.Means.child hmeans (Scope.zip_forall₂ ps hus)) hbody hd

/-- Children at other places render as the same text. -/
theorem agree_movedChildren (stack : Stack) (properties : List Property) {es : List Expr}
    (hes : ∀ e ∈ es, e.WellFormed) :
    AgreeFrom (Abreast c c') (FailsMoved f) Eq
      (renderAllOn stack context (.ofProperties properties) es)
      (renderAllOn stack context (.ofProperties properties) (es.map (Expr.relocate f))) := by
  have hR : Likeness (Moved f c c') := Moved.likeness hf
  refine agree_renderAll hR (List.forall₂_map_right_iff.mpr
    (List.forall₂_same.mpr fun e he => ?_)) (.refl stack)
  exact agree_relocate hf hstandard (agree_movedCall hf hstandard _)
    (Scope.means_ofProperties .string properties) (hes e he)

end

/-! ## One run after the other -/

/-- Children that join render as the first ones and then the second ones: where
two texts have become one, no evaluation is lost, and either has room or none has. -/
theorem renderAllOn_joins {es cs ds : List Expr} (h : Joins es cs ds) (stack : Stack)
    (context : Context) (s : Scope) :
    renderAllOn stack context s ds = do
      let x ← renderAllOn stack context s es
      let y ← renderAllOn stack context s cs
      return x ++ y := by
  cases h with
  | apart es cs => exact renderAllOn_append stack context s es cs
  | merged es l m x y cs =>
      rw [renderAllOn_append, renderAllOn_append, renderAllOn_string, renderAllOn_string,
        renderAllOn_string, renderAllOn]
      by_cases hroom : stack.work .text 0 ≤ stack.room
      · simp only [Stack.require, if_pos hroom, bind_assoc, pure_bind, String.append_assoc,
          String.append_empty]
      · simp only [Stack.require, if_neg hroom, bind_assoc, exhausted_bind]

end Evaluation

/-! ## Rendering -/

namespace Template

/-- How the template `u` renders whose children are those of `s` and then, at the
places moved by `f`, those of `t`. -/
theorem render_joins {f : Location → Location} (hf : Function.Injective f) {s t u : Template}
    (ht : ∀ e ∈ t.children, e.WellFormed)
    (hu : Joins s.children (t.children.map (Expr.relocate f)) u.children) {context : Context}
    (hlibrary : context.registry = Library.registry) (properties : List Property)
    (stack : Evaluation.Stack) (record record' : Record) :
    let scope := Scope.ofProperties properties
    let first := (s.renderOn stack context scope record).1
    let second := (t.renderOn stack context scope record').1
    let both := (u.renderOn stack context scope record).1
    (∀ x y, first = .ok x → second = .ok y → both = .ok (x ++ y)) ∧
      (∀ e, first = .error e → both = .error e) ∧
      ∀ x e, first = .ok x → second = .error e → ∃ e', both = .error e' ∧
        e'.cause.kindName = e.cause.kindName ∧
        (¬ t.Exhausts stack context scope record' → e'.location = f e.location) ∧
        (t.Exhausts stack context scope record' → e'.location = .start) := by
  intro scope first second both
  obtain ⟨hend, -⟩ := (Evaluation.agree_movedChildren hf (hlibrary ▸ registry_standard) stack
    properties ht record' (Evaluation.renderAllOn stack context scope s.children record).2
    (Nat.add_comm _ _)).resolve_left And.left
  refine ⟨fun x y hx hy => ?_, fun e he => ?_, fun x e hx he => ?_⟩
  · obtain ⟨y, hy', rfl⟩ := hend.exists_of_ok (Evaluation.settle_eq_ok.mp hy)
    refine Evaluation.settle_eq_ok.mpr ?_
    rw [Evaluation.renderAllOn_joins hu,
      Evaluation.bind_of_ok (Prod.ext (Evaluation.settle_eq_ok.mp hx) rfl),
      Evaluation.bind_of_ok (Prod.ext hy' rfl)]
    rfl
  · refine Evaluation.settle_eq_error.mpr ?_
    rw [Evaluation.renderAllOn_joins hu]
    rcases Evaluation.settle_eq_error.mp he with he | ⟨hstack, rfl⟩
    · exact .inl (congrArg Prod.fst (Evaluation.bind_of_error (Prod.ext he rfl)))
    · exact .inr ⟨congrArg Prod.fst (Evaluation.bind_of_error (Prod.ext hstack rfl)), rfl⟩
  · have hrest : ∀ {h : Halt},
        (Evaluation.renderAllOn stack context scope (t.children.map (Expr.relocate f))
          (Evaluation.renderAllOn stack context scope s.children record).2).1 = .error h →
        (Evaluation.renderAllOn stack context scope u.children record).1 = .error h := by
      intro h hh
      rw [Evaluation.renderAllOn_joins hu,
        Evaluation.bind_of_ok (Prod.ext (Evaluation.settle_eq_ok.mp hx) rfl),
        Evaluation.bind_of_error (Prod.ext hh rfl)]
    rcases Evaluation.settle_eq_error.mp he with he | ⟨hstack, rfl⟩
    · obtain ⟨e', he', hkind, hplace⟩ := hend.exists_of_error he
      refine ⟨e', Evaluation.settle_eq_error.mpr (.inl (hrest he')), hkind, fun _ => hplace, ?_⟩
      intro hstack
      cases he.symm.trans hstack
    · have hstack' := hrest (hend.of_stackExhausted hstack)
      exact ⟨_, Evaluation.settle_eq_error.mpr (.inr ⟨hstack', rfl⟩), rfl,
        fun hnot => absurd hstack hnot, fun _ => rfl⟩

/-- Text without an opening mark is a template that renders as the text, where a text can
be rendered at all. -/
theorem parse_noMark (reader : Reader.Stack) {text : String}
    (hmark : ¬ Lexer.openingMark <:+: text.toList) :
    ∃ t, Template.parse reader text = .ok t ∧
      ∀ (stack : Evaluation.Stack) (context : Context) (scope : Scope) (record : Record),
        stack.work .text 0 ≤ stack.room →
          t.renderOn stack context scope record = (.ok text, record) := by
  by_cases hempty : text = ""
  · subst hempty
    exact ⟨⟨[]⟩, by with_unfolding_all rfl, fun _ _ _ _ _ => rfl⟩
  · have hne : text.toList ≠ [] := fun h => hempty (String.toList_eq_nil_iff.mp h)
    have htokens : (tokenize text).tokens = ⟨.text, String.ofList text.toList, .start⟩ ::
        (Lexer.tokensFrom .plain (Location.start.advance text.toList) []).tokens :=
      congrArg Lexed.tokens (Lexer.tokensFrom_lastText hne hmark .start)
    have hread : reader.children (tokenize text).tokens = .ok [.string .start text] := by
      rw [htokens, Lexer.tokensFrom_nil, reader.children_eq,
        Reader.children_text rfl (List.cons_ne_nil _ _), String.ofList_toList,
        Reader.children_ending rfl]
      rfl
    refine ⟨⟨[.string .start text]⟩, parse_eq_ok_iff.mpr hread,
      fun stack context scope record hroom => ?_⟩
    unfold renderOn
    dsimp only
    rw [Evaluation.renderAllOn_string, Evaluation.Stack.require, if_pos hroom, pure_bind,
      Evaluation.renderAllOn, pure_bind, String.append_empty]
    rfl

end Template

/-- A template behind one that can be read, where no opening mark lies across the
joint: together they can be read just if the second can. They render as their
texts one after the other. If the first fails, they fail as it does; if only the
second fails, they fail in its way at its place behind the first, unless it comes to the
end of the stack, which is reported at the start of whatever is rendered. A stack without
end has none. -/
theorem render_append {reader : Reader.Stack} {a b : String} {s : Template}
    (ha : Template.parse reader a = .ok s) (hjoint : ¬ Lexer.Straddles a.toList b.toList) :
    ((∃ u, Template.parse reader (a ++ b) = .ok u) ↔ ∃ t, Template.parse reader b = .ok t) ∧
    (∀ failure, Template.parse reader b = .error failure →
      Template.parse reader (a ++ b) =
        .error (failure.relocate (Location.behind a.toList))) ∧
    (∀ t u, Template.parse reader b = .ok t → Template.parse reader (a ++ b) = .ok u →
      ∀ (stack : Evaluation.Stack) (properties : List Property) (host : Host) (clock : Int)
        (limit : Nat) (record record' : Record),
      let context : Context := ⟨Library.registry, host, clock, limit⟩
      let scope := Scope.ofProperties properties
      let first := (s.renderOn stack context scope record).1
      let second := (t.renderOn stack context scope record').1
      let both := (u.renderOn stack context scope record).1
      (∀ x y, first = .ok x → second = .ok y → both = .ok (x ++ y)) ∧
      (∀ e, first = .error e → both = .error e) ∧
      (∀ x e, first = .ok x → second = .error e → ∃ e', both = .error e' ∧
        e'.cause.kindName = e.cause.kindName ∧
        (¬ t.Exhausts stack context scope record' → e'.location = e.location.behind a.toList) ∧
        (t.Exhausts stack context scope record' →
          e.cause = .callDepthExceeded limit ∧ e'.location = .start)) ∧
      ¬ t.Exhausts .endless context scope record') ∧
    ∀ text : String, ¬ Lexer.openingMark <:+: text.toList →
      ∃ t, Template.parse reader text = .ok t ∧
        ∀ (stack : Evaluation.Stack) (context : Context) (scope : Scope) (record : Record),
          stack.work .text 0 ≤ stack.room →
            t.renderOn stack context scope record = (.ok text, record) := by
  obtain ⟨hok, herror⟩ := parse_append ha hjoint
  refine ⟨⟨?_, ?_⟩, herror, ?_, fun text hmark => Template.parse_noMark reader hmark⟩
  · rintro ⟨u, hu⟩
    cases hb : Template.parse reader b with
    | ok t => exact ⟨t, rfl⟩
    | error failure => cases (herror failure hb).symm.trans hu
  · rintro ⟨t, ht⟩
    obtain ⟨u, hu, -⟩ := hok t ht
    exact ⟨u, hu⟩
  · intro t u ht hu stack properties host clock limit record record' context scope first second
      both
    obtain ⟨u', hu', hjoins⟩ := hok t ht
    obtain rfl := Except.ok.inj (hu'.symm.trans hu)
    have hwf : ∀ e ∈ t.children, e.WellFormed := fun e he => (parse_wellFormed ht e he).1
    obtain ⟨htexts, hfirst, hsecond⟩ := Template.render_joins
      (Location.behind_shift a.toList).injective hwf hjoins (rfl : context.registry = _)
      properties stack record record'
    refine ⟨htexts, hfirst, fun x e hx he => ?_, Template.not_exhausts_endless rfl⟩
    obtain ⟨e', he', hkind, hplace, hstart⟩ := hsecond x e hx he
    refine ⟨e', he', hkind, hplace, fun hstack => ⟨?_, hstart hstack⟩⟩
    obtain rfl := Except.error.inj (he.symm.trans hstack.renderOn)
    rfl

/-- A name without a meaning in the second template, which starts on the second
line of the first: its error moves down and to the right. -/
theorem render_append_unresolved :
    let a := "<%= 1 %>\ny<"
    let b := "z<%= x %>"
    let context : Context := ⟨Library.registry, Host.none, 0, 8⟩
    let scope := Scope.ofProperties []
    ¬ Lexer.Straddles a.toList b.toList ∧
      ∃ s t u, Template.parse .usual a = .ok s ∧ Template.parse .usual b = .ok t ∧
        Template.parse .usual (a ++ b) = .ok u ∧
        (s.renderOn .usual context scope ⟨0, []⟩).1 = .ok "1\ny<" ∧
        (t.renderOn .usual context scope ⟨0, []⟩).1 = .error ⟨.unresolved "x", ⟨1, 6⟩⟩ ∧
        ∃ e, (u.renderOn .usual context scope ⟨0, []⟩).1 = .error e ∧
          e.cause.kindName = "UnresolvedReference" ∧ e.location = ⟨2, 8⟩ := by
  intro a b context scope
  let s : Template := ⟨[.integer ⟨1, 5⟩ 1, .string ⟨1, 9⟩ "\ny<"]⟩
  let t : Template := ⟨[.string ⟨1, 1⟩ "z", .name ⟨1, 6⟩ "x"]⟩
  have ha : Template.parse .usual "<%= 1 %>\ny<" = .ok s := by
    with_unfolding_all rfl
  have hb : Template.parse .usual "z<%= x %>" = .ok t := by
    with_unfolding_all rfl
  have hjoint : ¬ Lexer.Straddles a.toList b.toList := by
    rw [Lexer.straddles_iff]
    decide
  have hfirst : (s.renderOn .usual context scope ⟨0, []⟩).1 = .ok "1\ny<" := by
    with_unfolding_all rfl
  have hsecond : (t.renderOn .usual context scope ⟨0, []⟩).1 =
      .error ⟨.unresolved "x", ⟨1, 6⟩⟩ := by
    with_unfolding_all rfl
  have hends : ¬ t.Exhausts .usual context scope ⟨0, []⟩ := by
    intro h
    have hrun : (Evaluation.renderAllOn .usual context scope t.children ⟨0, []⟩).1 =
        .error (.error ⟨.unresolved "x", ⟨1, 6⟩⟩) := by
      with_unfolding_all rfl
    cases hrun.symm.trans h
  obtain ⟨hreads, -, hrenders, -⟩ := render_append ha hjoint
  obtain ⟨u, hu⟩ := hreads.mpr ⟨t, hb⟩
  obtain ⟨-, -, hmoved, -⟩ := hrenders t u hb hu .usual [] Host.none 0 8 ⟨0, []⟩ ⟨0, []⟩
  obtain ⟨e, he, hkind, hplace, -⟩ := hmoved _ _ hfirst hsecond
  have hbehind : Location.behind a.toList ⟨1, 6⟩ = ⟨2, 8⟩ := by decide
  exact ⟨hjoint, s, t, u, ha, hb, hu, hfirst, hsecond, e, he, hkind, (hplace hends).trans hbehind⟩

/-! ## Calls without end -/

/-- The call `f(f)`. -/
def Expr.selfCall (l m n : Location) : Expr := .call l (.name m "f") [.name n "f"]

namespace Evaluation

/-- There is no room for a part, or what is done there has less room. -/
theorem Stack.below_cases {α : Type} (k : Stack) (part : Part) (f : Stack → Evaluated α)
    (record : Record) :
    (k.below part >>= f) record = (.error .stackExhausted, record) ∨
      ∃ room, room + k.step part = k.room ∧
        (k.below part >>= f) record = f { k with room := room } record := by
  by_cases hfits : k.step part ≤ k.room
  · refine .inr ⟨k.room - k.step part, Nat.sub_add_cancel hfits, ?_⟩
    rw [Stack.below, if_pos hfits, pure_bind]
  · refine .inl ?_
    rw [Stack.below, if_neg hfits]
    rfl

/-- There is no room for a work, or it takes none. -/
theorem Stack.require_cases {α : Type} (k : Stack) (work : Work) (depth : Nat)
    (m : Evaluated α) (record : Record) :
    (k.require work depth >>= fun _ => m) record = (.error .stackExhausted, record) ∨
      (k.require work depth >>= fun _ => m) record = m record := by
  by_cases hfits : k.work work depth ≤ k.room
  · exact .inr (by rw [Stack.require, if_pos hfits, pure_bind])
  · exact .inl (by rw [Stack.require, if_neg hfits]; rfl)

section

variable (context : Context) (call : Stack → Caller) {scope : Scope} {f : Value}
  (hf : scope.lookup "f" = some f) (k : Stack) (record : Record)
include hf

theorem evalOn_name_cases (l : Location) :
    evalOn k context call scope (.name l "f") record = (.error .stackExhausted, record) ∨
      evalOn k context call scope (.name l "f") record = (.ok f, record) := by
  rw [evalOn, resolve, hf]
  exact k.require_cases .lookup 0 _ record

/-- There is no room for the call `f(f)`, or it is made. -/
theorem evalOn_selfCall_cases (l m n : Location) :
    evalOn k context call scope (.selfCall l m n) record = (.error .stackExhausted, record) ∨
      evalOn k context call scope (.selfCall l m n) record = call k l f [f] record := by
  rw [Expr.selfCall, evalOn]
  obtain hends | ⟨room, -, heq⟩ := k.below_cases .callee _ record
  · exact .inl hends
  rw [heq]
  obtain hends | hfound := evalOn_name_cases context call hf { k with room := room } record m
  · exact .inl (bind_of_error hends)
  rw [bind_of_ok hfound]
  obtain hends | ⟨room', -, heq'⟩ := k.below_cases .argument _ record
  · exact .inl hends
  rw [heq', evalAllOn, evalAllOn, bind_assoc]
  obtain hends | hfound := evalOn_name_cases context call hf { k with room := room' } record n
  · exact .inl (bind_of_error hends)
  · exact .inr (bind_of_ok hfound)

end

/-- A function that calls its argument with itself, called with a function that
does so too: where a call takes frames, no stack is enough for a high limit. -/
theorem callOn_selfCall (context : Context) {budget : Nat} {k : Stack} (hstep : 0 < k.step .body)
    (hbudget : k.room < budget) (p l m n l' m' n' : Location) (frames frames' : List Frame)
    (record : Record) :
    callOn context budget k p (.closure ["f"] (.selfCall l m n) frames)
      [.closure ["f"] (.selfCall l' m' n') frames'] record = (.error .stackExhausted, record) := by
  induction budget generalizing k p l m n frames with
  | zero => cases hbudget
  | succ left ih =>
      unfold callOn
      dsimp only
      rw [if_neg (by simp)]
      obtain hends | ⟨room, hroom, heq⟩ := k.below_cases .body _ record
      · exact hends
      · rw [heq]
        have hf : ((Scope.mk frames).child
            (["f"].zip [.closure ["f"] (.selfCall l' m' n') frames'])).lookup "f" = some _ := rfl
        obtain hends | hcall := evalOn_selfCall_cases context (callOn context left) hf
          { k with room := room } record l m n
        · exact hends
        · rw [hcall]
          have hless : room < left := by omega
          exact ih (k := { k with room := room }) hstep hless l l' m' n' frames'

theorem evalOn_function_cases (context : Context) (call : Stack → Caller) (k : Stack)
    (scope : Scope) (l : Location) (ps : List String) (b : Expr) (record : Record) :
    evalOn k context call scope (.function l ps b) record = (.error .stackExhausted, record) ∨
      evalOn k context call scope (.function l ps b) record =
        (.ok (.closure ps b scope.frames), record) := by
  rw [evalOn]
  exact k.require_cases .capture 0 _ record

theorem evalOn_loop (context : Context) {k : Stack} (hstep : 0 < k.step .body)
    (hlimit : k.room < context.limit) (p q q' l m n l' m' n' : Location) (scope : Scope)
    (record : Record) :
    evalOn k context (callOn context context.limit) scope
      (.call p (.function q ["f"] (.selfCall l m n)) [.function q' ["f"] (.selfCall l' m' n')])
      record = (.error .stackExhausted, record) := by
  rw [evalOn]
  obtain hends | ⟨room, -, heq⟩ := k.below_cases .callee _ record
  · exact hends
  rw [heq]
  obtain hends | hmade := evalOn_function_cases context (callOn context context.limit)
    { k with room := room } scope q ["f"] (.selfCall l m n) record
  · exact bind_of_error hends
  rw [bind_of_ok hmade]
  obtain hends | ⟨room', -, heq'⟩ := k.below_cases .argument _ record
  · exact hends
  rw [heq', evalAllOn, evalAllOn, bind_assoc]
  obtain hends | hmade := evalOn_function_cases context (callOn context context.limit)
    { k with room := room' } scope q' ["f"] (.selfCall l' m' n') record
  · exact bind_of_error hends
  · rw [bind_of_ok hmade]
    exact callOn_selfCall context hstep hlimit p l m n l' m' n' scope.frames scope.frames record

end Evaluation

/-- Calls that go on for ever under a limit higher than any number of calls that
can be active: the error stands at the start of the template, with and without a
text in front. -/
theorem append_selfCall_unmoved :
    let a := "x"
    let b := "<%= (fn(f) -> f(f))(fn(f) -> f(f)) %>"
    let context : Context := ⟨Library.registry, Host.none, 0, 10000⟩
    let scope := Scope.ofProperties []
    ¬ Lexer.Straddles a.toList b.toList ∧
      ∃ s t u, Template.parse .usual a = .ok s ∧ Template.parse .usual b = .ok t ∧
        Template.parse .usual (a ++ b) = .ok u ∧
        (s.renderOn .usual context scope ⟨0, []⟩).1 = .ok "x" ∧
        ∃ e e', (t.renderOn .usual context scope ⟨0, []⟩).1 = .error e ∧
          (u.renderOn .usual context scope ⟨0, []⟩).1 = .error e' ∧
          e'.location ≠ e.location.behind a.toList := by
  intro a b context scope
  let loop (i : Nat) : Expr :=
    .call ⟨1, 20 + i⟩ (.function ⟨1, 6 + i⟩ ["f"] (.selfCall ⟨1, 16 + i⟩ ⟨1, 15 + i⟩ ⟨1, 17 + i⟩))
      [.function ⟨1, 21 + i⟩ ["f"] (.selfCall ⟨1, 31 + i⟩ ⟨1, 30 + i⟩ ⟨1, 32 + i⟩)]
  have ha : Template.parse .usual "x" = .ok ⟨[.string .start "x"]⟩ := by
    with_unfolding_all rfl
  have hb : Template.parse .usual "<%= (fn(f) -> f(f))(fn(f) -> f(f)) %>" = .ok ⟨[loop 0]⟩ := by
    with_unfolding_all rfl
  have hjoined : a ++ b = "x<%= (fn(f) -> f(f))(fn(f) -> f(f)) %>" := rfl
  have hu : Template.parse .usual "x<%= (fn(f) -> f(f))(fn(f) -> f(f)) %>" =
      .ok ⟨[.string .start "x", loop 1]⟩ := by
    with_unfolding_all rfl
  have hjoint : ¬ Lexer.Straddles a.toList b.toList := by
    rw [Lexer.straddles_iff]
    decide
  have hstep : 0 < Evaluation.Stack.usual.step .body := by decide
  have hlimit : Evaluation.Stack.usual.room < context.limit := by decide
  have hloop : ∀ i, Evaluation.renderAllOn .usual context scope [loop i] ⟨0, []⟩ =
      (.error .stackExhausted, ⟨0, []⟩) := by
    intro i
    rw [Evaluation.renderAllOn]
    refine Evaluation.bind_of_error ?_
    exact Evaluation.evalOn_loop context hstep hlimit ..
  have halone : ((⟨[loop 0]⟩ : Template).renderOn .usual context scope ⟨0, []⟩).1 =
      .error ⟨.callDepthExceeded 10000, .start⟩ :=
    Evaluation.settle_eq_error.mpr (.inr ⟨congrArg Prod.fst (hloop 0), rfl⟩)
  have hboth : ((⟨[.string .start "x", loop 1]⟩ : Template).renderOn .usual context scope
      ⟨0, []⟩).1 = .error ⟨.callDepthExceeded 10000, .start⟩ := by
    refine Evaluation.settle_eq_error.mpr (.inr ⟨?_, rfl⟩)
    have hroom : Evaluation.Stack.usual.work .text 0 ≤ Evaluation.Stack.usual.room := by decide
    rw [Evaluation.renderAllOn_string, Evaluation.Stack.require, if_pos hroom, pure_bind,
      Evaluation.bind_of_error (hloop 1)]
  exact ⟨hjoint, _, _, _, ha, hb, hjoined ▸ hu, rfl, _, _, halone, hboth, by decide⟩

end Inlay
