import Inlay.Probe
import Inlay.Expr.Reader
import Inlay.Report
import Inlay.Proofs.Parts

/-!
# Names that no function binds

The names of an expression that no function around them has as a parameter are
its free names. Whatever becomes of the functions in a template, be they
returned, passed on or kept in lists, a name in a body that is not free in the
template has a meaning when the body runs: the closure has captured it
(`Value.Bound`). So a name that is found to mean nothing is free in the template
and no property (`Template.error_of_render`), and a template whose free names
all mean something never fails for want of a meaning (`render_resolves`).

The invariant speaks of every closure in every value of the run, those in
captured scopes included. The steps that keep it are the ones known from two
runs, taken for one run beside itself.
-/

namespace Inlay

/-! ## Free names -/

namespace Expr

mutual

/-- The names in an expression that are no parameter of a function around them
in it. -/
def free : Expr → List String
  | .name _ w => [w]
  | .member _ b _ => free b
  | .index _ b k => free b ++ free k
  | .call _ f es => free f ++ freeAll es
  | .choice _ c a b => free c ++ (free a ++ free b)
  | .list _ es => freeAll es
  | .dictionary _ es => freeEntries es
  | .function _ ps b => (free b).filter (· ∉ ps)
  | _ => []

def freeAll : List Expr → List String
  | [] => []
  | e :: es => free e ++ freeAll es

def freeEntries : List (Expr × Expr) → List String
  | [] => []
  | (k, v) :: es => free k ++ (free v ++ freeEntries es)

end

theorem freeAll_eq (es : List Expr) : freeAll es = es.flatMap free := by
  induction es with
  | nil => rfl
  | cons e es ih => rw [freeAll, ih, List.flatMap_cons]

theorem freeEntries_eq (es : List (Expr × Expr)) :
    freeEntries es = es.flatMap fun p => free p.1 ++ free p.2 := by
  induction es with
  | nil => rfl
  | cons p es ih => rw [freeEntries, ih, List.flatMap_cons, List.append_assoc]

end Expr

/-- The names in a template that are no parameter of a function around them. -/
def Template.free (t : Template) : List String := t.children.flatMap Expr.free

/-! ## Bound closures -/

section

variable (nodes : List Expr) (outer : List String) (own : Function → Prop)

/-- A name that has a meaning in a scope, or is one of the names that have to
have theirs outside of scopes. -/
def Scope.Provides (s : Scope) (x : String) : Prop := x ∈ outer ∨ s.lookup x ≠ none

/-- A function of the host's, or one whose body is made of the template's nodes
and has a meaning for each of its names. -/
inductive Value.Bound : Value → Prop
  | closure {ps : List String} {b : Expr} {frames : List Frame} (hnodes : b.nodes ⊆ nodes)
      (hnames : ∀ x ∈ b.free, x ∈ ps ∨ Scope.Provides outer ⟨frames⟩ x) :
      Bound (.closure ps b frames)
  | builtin {f : Function} (h : own f) : Bound (.builtin f)

/-- An error of a node of the template; if it is for want of a meaning, the name
is none that scopes provide. -/
structure RenderError.Expected (context : Context) (e : RenderError) : Prop where
  node : ∃ n ∈ nodes, n.location = e.location
  name : ∀ w, e.cause = .unresolved w → w ∈ outer ∧ context.Unknown w

end

/-- The parameters of a call have their meaning in the scope of the body. -/
theorem Scope.provides_child {outer : List String} {s : Scope} {ps : List String}
    {vs : List Value} (hlength : vs.length = ps.length) {x : String}
    (h : x ∈ ps ∨ s.Provides outer x) : (s.child (ps.zip vs)).Provides outer x := by
  rcases h with hp | houter | hs
  · right
    obtain ⟨i, hi, rfl⟩ := List.getElem_of_mem hp
    have hmem : (ps[i], vs[i]) ∈ (ps.zip vs).reverse := by
      rw [List.mem_reverse, List.mem_iff_getElem]
      exact ⟨i, by simp; omega, by simp⟩
    intro hnone
    rw [lookup_child, Option.or_eq_none_iff, List.lookup_eq_none_iff] at hnone
    simpa using hnone.1 _ hmem
  · exact .inl houter
  · right
    intro hnone
    rw [lookup_child, Option.or_eq_none_iff] at hnone
    exact hs hnone.2

/-! ## The run -/

namespace Evaluation

section

variable {context : Context} {nodes : List Expr} {outer : List String} {own : Function → Prop}

/-- One run beside itself: the same errors, all of them expected. -/
def Expects (context : Context) (nodes : List Expr) (outer : List String)
    (e e' : RenderError) : Prop := e = e' ∧ e.Expected nodes outer context

theorem placed_expects (R : Value → Value → Prop) (hR : ∀ {v w}, R v w → v = w) {n : Expr}
    (hn : n ∈ nodes) : Placed R (Expects context nodes outer) n.location n.location where
  cause hc := ⟨rfl, ⟨n, hn, rfl⟩, fun w hw => absurd hw (hc w)⟩
  key hk := ⟨by rw [hR hk], ⟨n, hn, rfl⟩, nofun⟩

variable (hown : context.Confined own)
include hown

/-- An expression whose names the scope provides, in a scope whose closures are
bound. -/
theorem agree_bound {call : Stack → Caller}
    (hcall : ∀ {n : Expr}, n ∈ nodes → ∀ {k k' : Stack} {v w : Value} {vs ws : List Value},
      Course.Fit ⟨Eq, False⟩ k k' → Value.Kept (Value.Bound nodes outer own) v w →
      List.Forall₂ (Value.Kept (Value.Bound nodes outer own)) vs ws →
      Agree (Expects context nodes outer) (Value.Kept (Value.Bound nodes outer own))
        (call k n.location v vs) (call k' n.location w ws))
    {s : Scope} (hs : Frame.All (Value.Holds (Value.Bound nodes outer own)) s.frames) {e : Expr}
    (hnodes : e.nodes ⊆ nodes) (hnames : ∀ x ∈ e.free, s.Provides outer x) :
    AgreeOn ⟨Eq, False⟩ (Expects context nodes outer)
      (Value.Kept (Value.Bound nodes outer own))
      (evalOn · context call s e) (evalOn · context call s e) := by
  have hR : Likeness (Value.Kept (Value.Bound nodes outer own)) := Value.Kept.likeness
  have hself : ∀ {e : Expr}, e.nodes ⊆ nodes → e ∈ nodes := fun h => h (Expr.self_mem_nodes _)
  have hl : ∀ {e : Expr}, e.nodes ⊆ nodes →
      Placed (Value.Kept (Value.Bound nodes outer own)) (Expects context nodes outer)
        e.location e.location := fun h => placed_expects _ And.left (hself h)
  induction e using Expr.induction with
  | string l u => exact agree_string hR u
  | integer l i => exact agree_integer hR i
  | float l x => exact agree_float ⟨rfl, Value.holds_float x⟩
  | name l w =>
      refine agree_nameOf ?_
      refine agree_resolve hR (fun f hf => ⟨rfl, ?_⟩) hs.means w fun hnone hunknown => ?_
      · exact Value.holds_builtin.mpr (.builtin (hown.registered f hf))
      · have houter : w ∈ outer :=
          (hnames w (by simp [Expr.free])).resolve_right (not_not.mpr hnone)
        refine ⟨rfl, ⟨_, hself hnodes, rfl⟩, fun w' hw' => ?_⟩
        cases hw'
        exact ⟨houter, hunknown⟩
  | member l b w ih =>
      have hb : b.nodes ⊆ nodes := fun m hm => hnodes (by simp [Expr.nodes, hm])
      exact agree_memberOf hR (hl hnodes) (ih hb fun x hx => hnames x (by simp [Expr.free, hx])) w
  | index l b k ihb ihk =>
      have hb : b.nodes ⊆ nodes := fun m hm => hnodes (by simp [Expr.nodes, hm])
      have hk : k.nodes ⊆ nodes := fun m hm => hnodes (by simp [Expr.nodes, hm])
      exact agree_indexOf hR (hl hnodes) (ihb hb fun x hx => hnames x (by simp [Expr.free, hx]))
        (ihk hk fun x hx => hnames x (by simp [Expr.free, hx]))
  | call l f es ihf ihes =>
      have hf : f.nodes ⊆ nodes := fun m hm => hnodes (by simp [Expr.nodes, hm])
      refine agree_callOf (ihf hf fun x hx => hnames x (by simp [Expr.free, hx]))
        (hcall (hself hnodes)) (List.forall₂_same.mpr fun e he => ihes e he ?_ fun x hx => ?_)
      · exact fun m hm => hnodes (by simp [Expr.nodes, Expr.subset_nodesAll he hm])
      · refine hnames x ?_
        rw [Expr.free, Expr.freeAll_eq]
        exact List.mem_append_right _ (List.mem_flatMap.mpr ⟨e, he, hx⟩)
  | choice l c a b ihc iha ihb =>
      have hc : c.nodes ⊆ nodes := fun m hm => hnodes (by simp [Expr.nodes, hm])
      have ha : a.nodes ⊆ nodes := fun m hm => hnodes (by simp [Expr.nodes, hm])
      have hb : b.nodes ⊆ nodes := fun m hm => hnodes (by simp [Expr.nodes, hm])
      exact agree_choice hR (hl hnodes) (ihc hc fun x hx => hnames x (by simp [Expr.free, hx]))
        (iha ha fun x hx => hnames x (by simp [Expr.free, hx]))
        (ihb hb fun x hx => hnames x (by simp [Expr.free, hx]))
  | list l es ih =>
      refine agree_list hR (List.forall₂_same.mpr fun e he => ih e he ?_ fun x hx => ?_)
      · exact fun m hm => hnodes (by simp [Expr.nodes, Expr.subset_nodesAll he hm])
      · refine hnames x ?_
        rw [Expr.free, Expr.freeAll_eq]
        exact List.mem_flatMap.mpr ⟨e, he, hx⟩
  | dictionary l es ih =>
      refine agree_dictionary hR (List.forall₂_same.mpr fun p hp => ?_)
      have hkey : p.1.nodes ⊆ nodes := fun m hm =>
        hnodes (by simp [Expr.nodes, (Expr.subset_nodesEntries hp).1 hm])
      have hvalue : p.2.nodes ⊆ nodes := fun m hm =>
        hnodes (by simp [Expr.nodes, (Expr.subset_nodesEntries hp).2 hm])
      have hentry : ∀ x ∈ p.1.free ++ p.2.free, s.Provides outer x := by
        intro x hx
        refine hnames x ?_
        rw [Expr.free, Expr.freeEntries_eq]
        exact List.mem_flatMap.mpr ⟨p, hp, hx⟩
      exact ⟨hl hkey, (ih p hp).1 hkey fun x hx => hentry x (List.mem_append_left _ hx),
        (ih p hp).2 hvalue fun x hx => hentry x (List.mem_append_right _ hx)⟩
  | function l ps b =>
      refine agree_function ⟨rfl, Value.holds_closure.mpr ⟨.closure ?_ fun x hx => ?_, hs⟩⟩
      · exact fun m hm => hnodes (by simp [Expr.nodes, hm])
      · -- what is no parameter is free in the function, so the scope provides it
        by_cases hp : x ∈ ps
        · exact .inl hp
        · exact .inr (hnames x (by simp [Expr.free, hx, hp]))

/-- Calls of bound closures: the scope of the body provides the names of the
body. -/
theorem agree_bound_call (budget : Nat) {n : Expr} (hn : n ∈ nodes) {k k' : Stack}
    {v w : Value} {vs ws : List Value} (hk : Course.Fit ⟨Eq, False⟩ k k')
    (hv : Value.Kept (Value.Bound nodes outer own) v w)
    (hvs : List.Forall₂ (Value.Kept (Value.Bound nodes outer own)) vs ws) :
    Agree (Expects context nodes outer) (Value.Kept (Value.Bound nodes outer own))
      (callOn context budget k n.location v vs) (callOn context budget k' n.location w ws) := by
  induction budget using Nat.strongRecOn generalizing n k k' v w vs ws with
  | ind budget ih =>
      have hl : Placed (Value.Kept (Value.Bound nodes outer own)) (Expects context nodes outer)
          n.location n.location := placed_expects _ And.left hn
      refine agree_callOn Value.Kept.likeness hl rfl hk ?_ ?_ hv hvs
      · rintro f us us' ⟨-, hf⟩ hus
        cases Value.holds_builtin.mp hf with
        | builtin hf => exact agree_kept_routine hown (fun g hg => .builtin hg) hl hf hus
      · rintro left ps a b fr gr us us' d d' rfl ⟨heq, hclosure⟩ harguments hlength hd
        cases heq
        obtain ⟨rfl, hus⟩ := Value.Kept.forall₂_iff.mp harguments
        obtain ⟨hbound, hframes⟩ := Value.holds_closure.mp hclosure
        cases hbound with
        | closure hnodes hnames =>
            exact agree_bound hown (ih left (Nat.lt_succ_self left))
              (Frame.All.child (s := ⟨fr⟩) hframes hus ps) hnodes (fun x hx =>
                Scope.provides_child hlength (hnames x hx)) hd

end

end Evaluation

/-! ## Rendering -/

/-- An error of rendering is one of a node of the template, if it is not that
the stack ends; and a name that is found to mean nothing is
free in the template, no property, no function and no constant. -/
theorem Template.error_of_render (t : Template) (properties : List Property) {context : Context}
    {own : Function → Prop} (hown : context.Confined own) {record : Record} {e : RenderError}
    {stack : Evaluation.Stack}
    (h : (t.renderOn stack context (.ofProperties properties) record).1 = .error e) :
    ((∃ n ∈ Expr.nodesAll t.children, n.location = e.location) ∨ e.location = t.location) ∧
      ∀ w, e.cause = .unresolved w →
        w ∈ t.free ∧ (∀ p ∈ properties, p.name ≠ w) ∧ context.Unknown w := by
  let outer := t.free.filter fun x => (Scope.ofProperties properties).lookup x = none
  have hagree : Evaluation.Agree
      (Evaluation.Expects context (Expr.nodesAll t.children) outer) Eq
      (Evaluation.renderAllOn stack context (.ofProperties properties) t.children)
      (Evaluation.renderAllOn stack context (.ofProperties properties) t.children) := by
    have hR : Likeness (Value.Kept (Value.Bound (Expr.nodesAll t.children) outer own)) :=
      Value.Kept.likeness
    refine Evaluation.agree_renderAll hR (List.forall₂_same.mpr fun c hc => ?_) (.refl stack)
    refine Evaluation.agree_bound hown (Evaluation.agree_bound_call hown _)
      (Frame.all_ofProperties Value.holds_string properties) (Expr.subset_nodesAll hc)
      fun x hx => ?_
    have hfree : x ∈ t.free := List.mem_flatMap.mpr ⟨c, hc, hx⟩
    by_cases hnone : (Scope.ofProperties properties).lookup x = none
    · exact .inl (List.mem_filter.mpr ⟨hfree, by simpa using hnone⟩)
    · exact .inr hnone
  rcases Evaluation.settle_eq_error.mp h with herror | ⟨-, rfl⟩
  · obtain ⟨_, -, rfl, hnode, hname⟩ :=
      (hagree.ending record).1.exists_of_error herror
    refine ⟨.inl hnode, fun w hw => ?_⟩
    obtain ⟨houter, hunknown⟩ := hname w hw
    obtain ⟨hfree, hnone⟩ := List.mem_filter.mp houter
    exact ⟨hfree, Scope.lookup_ofProperties_eq_none.mp (by simpa using hnone), hunknown⟩
  · exact ⟨.inr rfl, nofun⟩

/-- A template in which every name is a parameter of a function around it, a
property, a function of the registry or a constant never fails because a name
means nothing. -/
theorem render_resolves {t : Template} {properties : List Property} {context : Context}
    {own : Function → Prop} (hown : context.Confined own)
    (hnames : ∀ x ∈ t.free, (∃ p ∈ properties, p.name = x) ∨
      context.registry.contains x = true ∨ x = "true" ∨ x = "false")
    (stack : Evaluation.Stack) (record : Record) (w : String) (l : Location) :
    (t.renderOn stack context (.ofProperties properties) record).1 ≠
      .error ⟨.unresolved w, l⟩ := by
  intro herror
  obtain ⟨hfree, hproperties, hunknown⟩ := (t.error_of_render properties hown herror).2 w rfl
  rcases hnames w hfree with ⟨p, hp, hname⟩ | hfunction | htrue | hfalse
  · exact hproperties p hp hname
  · rw [Registry.contains, hunknown.unregistered] at hfunction
    cases hfunction
  · exact hunknown.notTrue htrue
  · exact hunknown.notFalse hfalse

/-- A function that is handed to the host, and what it returns: the parameter
still has its meaning after the call that gave it one. -/
theorem render_resolves_escaped :
    let keep : Function := ⟨"keep", .host "record", 0, none, ""⟩
    let context : Context := ⟨⟨[keep]⟩, Probe.host, 0, 8⟩
    ∃ t, Template.parse .usual "<%= keep(fn(x) -> fn() -> x)(y)() %>" = .ok t ∧
      context.Confined (· = keep) ∧
      (∀ x ∈ t.free, (∃ p ∈ [(⟨"y", "v"⟩ : Property)], p.name = x) ∨
        context.registry.contains x = true ∨ x = "true" ∨ x = "false") ∧
      (t.renderOn .usual context (.ofProperties [⟨"y", "v"⟩]) ⟨0, []⟩).1.mapError
        RenderError.diagnostic = .ok "v" ∧
      ∀ w l, (t.renderOn .usual context (.ofProperties [⟨"y", "v"⟩]) ⟨0, []⟩).1 ≠
        .error ⟨.unresolved w, l⟩ := by
  intro keep context
  let t : Template :=
    ⟨[.call ⟨1, 32⟩ (.call ⟨1, 29⟩ (.call ⟨1, 9⟩ (.name ⟨1, 5⟩ "keep")
      [.function ⟨1, 10⟩ ["x"] (.function ⟨1, 19⟩ [] (.name ⟨1, 27⟩ "x"))])
      [.name ⟨1, 30⟩ "y"]) []]⟩
  have hread : Template.parse .usual "<%= keep(fn(x) -> fn() -> x)(y)() %>" = .ok t := by
    with_unfolding_all rfl
  have hown : context.Confined (· = keep) := by
    refine ⟨fun f hf => List.mem_singleton.mp hf, ?_⟩
    rintro f routine vs v rfl hroutine hv
    cases hroutine
    cases hv
    -- the first argument, or a text if there is none
    cases vs with
    | nil => exact Value.holds_string ""
    | cons v vs => exact fun u hu _ => .inl ⟨v, List.mem_cons_self, hu⟩
  have hnames : ∀ x ∈ t.free, (∃ p ∈ [(⟨"y", "v"⟩ : Property)], p.name = x) ∨
      context.registry.contains x = true ∨ x = "true" ∨ x = "false" := by
    have hfree : t.free = ["keep", "y"] := by
      simp [t, Template.free, Expr.free, Expr.freeAll]
    rw [hfree]
    intro x hx
    rcases List.mem_pair.mp hx with rfl | rfl
    · exact .inr (.inl rfl)
    · exact .inl ⟨_, List.mem_cons_self, rfl⟩
  have hrender : (t.renderOn .usual context (.ofProperties [⟨"y", "v"⟩]) ⟨0, []⟩).1.mapError
      RenderError.diagnostic = .ok "v" := by
    with_unfolding_all rfl
  exact ⟨t, hread, hown, hnames, hrender, render_resolves hown hnames .usual ⟨0, []⟩⟩

end Inlay
