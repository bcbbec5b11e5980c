import Inlay.Proofs.Equality
import Inlay.Proofs.Parts
import Inlay.Proofs.TreePlaces
import Inlay.Proofs.WellFormed

/-!
# A closure is the literal that made it

Two closures are equal, and are the same key, if they have the same parameters and
their bodies are the same piece of source, places included. In the tree of one text
the body of a function literal follows it directly among the nodes
(`Expr.getElem?_body`), and no two nodes stand at one place, so two literals never
share a body, not even when one encloses the other (`parse_literals_differ`).

A closure of a run is made by evaluating a literal of the template
(`Value.MadeAt`): none comes from elsewhere, however it was passed on or captured.
So equality of closures is identity of literals (`closures_equal_iff`).
-/

namespace Inlay

open Evaluation

/-! ## Literals among the nodes -/

namespace Expr

/-- Nodes in which each function is followed by its body. -/
def BodiesFollow (nodes : List Expr) : Prop :=
  ∀ (i : Nat) (l : Location) (ps : List String) (b : Expr),
    nodes[i]? = some (.function l ps b) → nodes[i + 1]? = some b

theorem bodiesFollow_nil : BodiesFollow [] := by
  intro i l ps b h
  cases h

theorem BodiesFollow.append {ns ms : List Expr} (hns : BodiesFollow ns) (hms : BodiesFollow ms) :
    BodiesFollow (ns ++ ms) := by
  intro i l ps b h
  by_cases hi : i < ns.length
  · rw [List.getElem?_append_left hi] at h
    have hnext := hns i l ps b h
    have hi' : i + 1 < ns.length := (List.getElem?_eq_some_iff.mp hnext).1
    rw [List.getElem?_append_left hi', hnext]
  · have hle : ns.length ≤ i := Nat.le_of_not_lt hi
    rw [List.getElem?_append_right hle] at h
    rw [List.getElem?_append_right (by omega), Nat.sub_add_comm hle]
    exact hms _ l ps b h

theorem BodiesFollow.cons {e : Expr} {ns : List Expr} (hns : BodiesFollow ns)
    (he : ∀ l ps b, e = .function l ps b → ns[0]? = some b) : BodiesFollow (e :: ns) := by
  intro i l ps b h
  cases i with
  | zero => exact he l ps b (Option.some.inj h)
  | succ i => exact hns i l ps b h

theorem bodiesFollow_flatMap {α : Type} {f : α → List Expr} {as : List α}
    (h : ∀ a ∈ as, BodiesFollow (f a)) : BodiesFollow (as.flatMap f) := by
  induction as with
  | nil => exact bodiesFollow_nil
  | cons a as ih =>
      obtain ⟨ha, has⟩ := List.forall_mem_cons.mp h
      rw [List.flatMap_cons]
      exact ha.append (ih has)

theorem head_nodes (e : Expr) : e.nodes[0]? = some e := by
  cases e <;> rfl

theorem bodiesFollow_nodes (e : Expr) : BodiesFollow e.nodes := by
  induction e using Expr.induction with
  | string | integer | float | name => exact bodiesFollow_nil.cons nofun
  | member l b w ih => exact ih.cons nofun
  | index l b k ihb ihk => exact (ihb.append ihk).cons nofun
  | call l f es ihf ihes =>
      have hes : BodiesFollow (nodesAll es) := by
        rw [nodesAll_eq]
        exact bodiesFollow_flatMap ihes
      exact (ihf.append hes).cons nofun
  | choice l c a b ihc iha ihb => exact (ihc.append (iha.append ihb)).cons nofun
  | list l es ih =>
      have hes : BodiesFollow (nodesAll es) := by
        rw [nodesAll_eq]
        exact bodiesFollow_flatMap ih
      exact hes.cons nofun
  | dictionary l es ih =>
      have hes : BodiesFollow (nodesEntries es) := by
        rw [nodesEntries_eq]
        exact bodiesFollow_flatMap fun p hp => (ih p hp).1.append (ih p hp).2
      exact hes.cons nofun
  | function l ps b ih =>
      refine ih.cons fun l' ps' b' h => ?_
      cases h
      exact head_nodes b

/-- The body of a function is the node after it. -/
theorem getElem?_body {es : List Expr} {i : Nat} {l : Location} {ps : List String} {b : Expr}
    (h : (nodesAll es)[i]? = some (.function l ps b)) : (nodesAll es)[i + 1]? = some b := by
  have hfollow : BodiesFollow (nodesAll es) := by
    rw [nodesAll_eq]
    exact bodiesFollow_flatMap fun e _ => bodiesFollow_nodes e
  exact hfollow i l ps b h

end Expr

section

variable {reader : Reader.Stack} {text : String} {t : Template}
  (h : Template.parse reader text = .ok t)
include h

/-- Nodes at two positions of a tree that is read stand at two places. -/
theorem parse_position {i j : Nat} {d e : Expr} (hi : (Expr.nodesAll t.children)[i]? = some d)
    (hj : (Expr.nodesAll t.children)[j]? = some e) (hplace : d.location = e.location) : i = j := by
  have hlt : i < (Expr.placesAll t.children).length := by
    rw [Expr.placesAll, List.length_map]
    exact (List.getElem?_eq_some_iff.mp hi).1
  refine (List.getElem?_inj hlt (parse_places h)).mp ?_
  rw [Expr.placesAll, List.getElem?_map, List.getElem?_map, hi, hj]
  exact congrArg some hplace

/-- Two function literals of a text never share a body. -/
theorem parse_literals_differ {i j : Nat} {l m : Location} {ps qs : List String} {b c : Expr}
    (hi : (Expr.nodesAll t.children)[i]? = some (.function l ps b))
    (hj : (Expr.nodesAll t.children)[j]? = some (.function m qs c)) (hne : i ≠ j) :
    b.same c = false := by
  refine Expr.same_of_location_ne fun hplace => hne ?_
  have hbodies := parse_position h (Expr.getElem?_body hi) (Expr.getElem?_body hj) hplace
  exact Nat.succ.inj hbodies

end

/-! ## Closures of a run -/

/-- A closure that is, or is held by, what some evaluation of a run comes to. -/
inductive Value.Arises (t : Template) (context : Context) (scope : Scope) (record : Record) :
    Value → Prop
  | intro {x : Visit} {v : Value} {r : Record} {ps : List String} {b : Expr}
      {frames : List Frame} (hx : t.Visits context scope record x)
      (hv : x.run context = (.ok v, r)) (hf : Part (.closure ps b frames) v) :
      Arises t context scope record (.closure ps b frames)

/-- A value that some evaluation of a run makes by evaluating the function literal
at a position of the tree. -/
def Value.MadeAt (t : Template) (context : Context) (scope : Scope) (record : Record) (i : Nat)
    (f : Value) : Prop :=
  ∃ (n : Nat) (s : Scope) (l : Location) (ps : List String) (b : Expr) (r : Record),
    (Expr.nodesAll t.children)[i]? = some (.function l ps b) ∧
      t.Visits context scope record ⟨n, s, .function l ps b, r⟩ ∧
      Visit.run context ⟨n, s, .function l ps b, r⟩ = (.ok f, r)

section

variable {t : Template} {context : Context} {scope : Scope} {record : Record}
  {own : Function → Prop}

/-- A function of a run: a closure that one of its literals made, or one of the
host's own. -/
inductive Value.Sourced (t : Template) (context : Context) (scope : Scope) (record : Record)
    (own : Function → Prop) : Value → Prop
  | closure {i n : Nat} {s : Scope} {l : Location} {ps : List String} {b : Expr} {r : Record}
      (hnode : (Expr.nodesAll t.children)[i]? = some (.function l ps b))
      (hvisit : t.Visits context scope record ⟨n, s, .function l ps b, r⟩) :
      Sourced t context scope record own (.closure ps b s.frames)
  | builtin {f : Function} (hf : own f) : Sourced t context scope record own (.builtin f)

theorem upholds_sourced (hown : context.Confined own) :
    Upholds context (t.Visits context scope record) (· ∈ Expr.nodesAll t.children)
      (fun _ => True) (Value.Holds (Value.Sourced t context scope record own)) where
  step hx hs := hx.step hs
  integer _ := Value.holds_integer _
  float := Value.holds_float
  string := Value.holds_string
  boolean := Value.holds_boolean
  builtin f hf := Value.holds_builtin.mpr (.builtin (hown.registered f hf))
  list := Value.holds_list.mpr
  elements := Value.holds_list.mp
  dictionary {es} h := by
    obtain ⟨hall, -⟩ := Dictionary.putAll_spec
      (K := Value.Holds (Value.Sourced t context scope record own))
      (V := Value.Holds (Value.Sourced t context scope record own)) fun p hp => (h p hp).2
    exact Value.holds_dictionary.mpr hall
  values h p hp := (Value.holds_dictionary.mp h p hp).2
  literal hvisit hnodes hframes := by
    obtain ⟨i, hi⟩ := List.mem_iff_getElem?.mp (hnodes _ (Expr.self_mem_nodes _))
    exact Value.holds_closure.mpr ⟨.closure hi hvisit, hframes⟩
  closure {ps b frames} h := by
    obtain ⟨hself, hframes⟩ := Value.holds_closure.mp h
    refine ⟨fun n hn => ?_, hframes⟩
    cases hself with
    | closure hnode _ =>
        have hbody := List.mem_of_getElem? (Expr.getElem?_body hnode)
        exact Expr.nodes_subset_nodesAll hbody hn
  routine {f l vs r r' v} hf hvs h := by
    have hl : Placed (Value.Kept (Value.Sourced t context scope record own))
        (fun _ _ => True) l l := ⟨fun _ => trivial, fun _ => trivial⟩
    have hkept : List.Forall₂ (Value.Kept (Value.Sourced t context scope record own)) vs vs :=
      Value.Kept.forall₂_iff.mpr ⟨rfl, fun v hv => (hvs v hv).1⟩
    cases Value.holds_builtin.mp hf with
    | builtin hf =>
        have hagree := agree_kept_routine hown (fun g hg => .builtin hg) hl hf hkept
        have hend := (Agree.ending hagree r).1
        rw [h] at hend
        cases hend with
        | value hv => exact hv.2

/-- A closure that arises in a run was made by a literal of the template. -/
theorem Value.Arises.exists_madeAt (hown : context.Confined own) (hscope : Frame.All
      (Value.Holds (Value.Sourced t context scope record own)) scope.frames)
    {f : Value} (hf : f.Arises t context scope record) :
    ∃ i, f.MadeAt t context scope record i := by
  have hP : Upholds context _ _ _ (Value.Holds (Value.Sourced t context scope record own)) :=
    upholds_sourced hown
  cases hf with
  | @intro x v r ps b frames hx hv hpart =>
      have hfits := hP.visits id (fun _ hn => hn) hscope (fun _ _ _ _ _ => trivial) hx
      have hholds := hP.value hx hfits (fun _ _ _ _ _ => trivial) hv
      cases hholds _ hpart rfl with
      | @closure i n s l _ _ r' hnode hvisit =>
          refine ⟨i, n, s, l, ps, b, r', hnode, hvisit, ?_⟩
          rfl

/-- What a literal makes is a closure with its parameters and its body. -/
theorem Value.MadeAt.closure {i : Nat} {f : Value} (hf : f.MadeAt t context scope record i) :
    ∃ l ps b frames, (Expr.nodesAll t.children)[i]? = some (.function l ps b) ∧
      f = .closure ps b frames := by
  obtain ⟨n, s, l, ps, b, r, hnode, -, hrun⟩ := hf
  rw [Visit.run, eval_function] at hrun
  cases hrun
  exact ⟨l, ps, b, s.frames, hnode, rfl⟩

end

/-- Closures made by literals of one text are the same key just if one literal made
both. -/
theorem Value.MadeAt.sameKey_iff {reader : Reader.Stack} {text : String} {t : Template}
    (h : Template.parse reader text = .ok t) {context : Context} {scope : Scope} {record : Record}
    {i j : Nat} {f g : Value} (hf : f.MadeAt t context scope record i)
    (hg : g.MadeAt t context scope record j) :
    f.isPlain = true ∧ (f.sameKey g = true ↔ i = j) := by
  obtain ⟨l, ps, b, frames, hi, rfl⟩ := hf.closure
  obtain ⟨m, qs, c, frames', hj, rfl⟩ := hg.closure
  refine ⟨rfl, ?_⟩
  rw [Value.sameKey, Bool.and_eq_true, beq_iff_eq]
  constructor
  · rintro ⟨-, hsame⟩
    by_contra hne
    rw [parse_literals_differ h hi hj hne] at hsame
    cases hsame
  · rintro rfl
    cases Option.some.inj (hi.symm.trans hj)
    have hbody := List.mem_of_getElem? (Expr.getElem?_body hi)
    have hwell : b.WellFormed := parse_nodes_wellFormed h b hbody
    exact ⟨rfl, Expr.same_self hwell.naNFree⟩

/-- In the tree of one text no two function literals have the same parameters and
the same body, places included. So of two closures that arise while the template is
rendered, each was made by a literal of it, and they are equal, and are the same key,
just if one literal made both, whatever they captured. -/
theorem closures_equal_iff {reader : Reader.Stack} {text : String} {t : Template}
    (h : Template.parse reader text = .ok t) :
    (∀ (i j : Nat) (l m : Location) (ps qs : List String) (b c : Expr), i ≠ j →
      (Expr.nodesAll t.children)[i]? = some (.function l ps b) →
        (Expr.nodesAll t.children)[j]? = some (.function m qs c) →
          ¬ (ps = qs ∧ b.same c = true)) ∧
    ∀ (properties : List Property) (context : Context) (own : Function → Prop)
      (record : Record) (f g : Value), context.Confined own →
        f.Arises t context (Scope.ofProperties properties) record →
        g.Arises t context (Scope.ofProperties properties) record →
          (∃ i, f.MadeAt t context (Scope.ofProperties properties) record i) ∧
          (∃ j, g.MadeAt t context (Scope.ofProperties properties) record j) ∧
          ∀ i j, f.MadeAt t context (Scope.ofProperties properties) record i →
            g.MadeAt t context (Scope.ofProperties properties) record j →
              (f.equal g = true ↔ i = j) ∧ (f.sameKey g = true ↔ i = j) := by
  constructor
  · rintro i j l m ps qs b c hne hi hj ⟨-, hsame⟩
    rw [parse_literals_differ h hi hj hne] at hsame
    cases hsame
  · intro properties context own record f g hown hf hg
    have hscope : ∀ {P : Value → Prop},
        Frame.All (Value.Holds P) (Scope.ofProperties properties).frames :=
      Frame.all_ofProperties Value.holds_string properties
    refine ⟨hf.exists_madeAt hown hscope, hg.exists_madeAt hown hscope, fun i j hi hj => ?_⟩
    obtain ⟨hplain, hiff⟩ := hi.sameKey_iff h hj
    refine ⟨?_, hiff⟩
    rw [Value.equal_plain (.inl hplain)]
    exact hiff

/-- A literal inside another with the same parameter: the closure that a call of the
outer one returns is not equal to it, and equal to itself. -/
theorem closures_equal_iff_nested :
    let context : Context := ⟨Library.registry, Host.none, 0, 8⟩
    let scope := Scope.ofProperties []
    let inner : Expr := .function ⟨1, 15⟩ ["x"] (.name ⟨1, 24⟩ "x")
    let outer : Expr := .function ⟨1, 6⟩ ["x"] inner
    let t : Template := ⟨[.call ⟨1, 26⟩ outer [.integer ⟨1, 27⟩ 1]]⟩
    let f : Value := .closure ["x"] (.name ⟨1, 24⟩ "x") [[("x", .integer 1)], []]
    let g : Value := .closure ["x"] inner [[]]
    Template.parse .usual "<%= (fn(x) -> fn(x) -> x)(1) %>" = .ok t ∧
      context.Confined (fun h => ∃ routine, h.routine = .standard routine) ∧
      f.Arises t context scope ⟨0, []⟩ ∧ g.Arises t context scope ⟨0, []⟩ ∧
      f.MadeAt t context scope ⟨0, []⟩ 2 ∧ g.MadeAt t context scope ⟨0, []⟩ 1 ∧
      f.equal f = true ∧ f.sameKey f = true ∧ ¬ f.equal g = true ∧ ¬ f.sameKey g = true := by
  intro context scope inner outer t f g
  have hread : Template.parse .usual "<%= (fn(x) -> fn(x) -> x)(1) %>" = .ok t := by
    with_unfolding_all rfl
  have hown : context.Confined (fun h => ∃ routine, h.routine = .standard routine) :=
    .of_library rfl
  have hcall : t.Visits context scope ⟨0, []⟩
      ⟨8, scope, .call ⟨1, 26⟩ outer [.integer ⟨1, 27⟩ 1], ⟨0, []⟩⟩ :=
    .child (comesTo_head _ [] _)
  have hcallee : t.Visits context scope ⟨0, []⟩ ⟨8, scope, outer, ⟨0, []⟩⟩ := hcall.step .callee
  have houter : Visit.run context ⟨8, scope, outer, ⟨0, []⟩⟩ = (.ok g, ⟨0, []⟩) := by
    with_unfolding_all rfl
  have hbody : t.Visits context scope ⟨0, []⟩
      ⟨7, (Scope.mk [[]]).child (["x"].zip [.integer 1]), inner, ⟨0, []⟩⟩ :=
    hcall.step (.body houter (by with_unfolding_all rfl) rfl)
  have hinner : Visit.run context
      ⟨7, (Scope.mk [[]]).child (["x"].zip [.integer 1]), inner, ⟨0, []⟩⟩ = (.ok f, ⟨0, []⟩) := by
    with_unfolding_all rfl
  have hf : f.MadeAt t context scope ⟨0, []⟩ 2 := ⟨7, _, _, _, _, _, rfl, hbody, hinner⟩
  have hg : g.MadeAt t context scope ⟨0, []⟩ 1 := ⟨8, _, _, _, _, _, rfl, hcallee, houter⟩
  have hfarises : f.Arises t context scope ⟨0, []⟩ := .intro hbody hinner .self
  have hgarises : g.Arises t context scope ⟨0, []⟩ := .intro hcallee houter .self
  obtain ⟨-, hruns⟩ := closures_equal_iff hread
  obtain ⟨-, -, hself⟩ := hruns [] context _ _ f f hown hfarises hfarises
  obtain ⟨-, -, hother⟩ := hruns [] context _ _ f g hown hfarises hgarises
  obtain ⟨hequal, hsame⟩ := hself 2 2 hf hf
  obtain ⟨hequal', hsame'⟩ := hother 2 1 hf hg
  exact ⟨hread, hown, hfarises, hgarises, hf, hg, hequal.mpr rfl, hsame.mpr rfl,
    fun h => absurd (hequal'.mp h) (by decide), fun h => absurd (hsame'.mp h) (by decide)⟩

end Inlay
