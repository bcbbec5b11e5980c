import Inlay.Property
import Inlay.Proofs.Scopes
import Inlay.Proofs.Visits

/-!
# What holds of every value of a run

A predicate on values holds of all values of a run if literals establish it,
lists, dictionaries and closures have it just when their parts do, and calls of
functions keep it (`Keeps`). It then also holds of what the scopes of closures
hold, since a scope grows by arguments only (`Keeps.visits`).

What calls keep may hang on a property `S` that all values of the run are
assumed to have. Where the predicate speaks of the run itself, a closure has it
because of the evaluation `V` that made it: `Upholds` allows for that, and `Keeps`
is the case of any evaluation.
-/

namespace Inlay

open Evaluation

/-! ## Where values come from -/

/-- All values that some frames bind satisfy a predicate. -/
def Frame.All (P : Value → Prop) (frames : List Frame) : Prop :=
  ∀ frame ∈ frames, ∀ p ∈ frame, P p.2

namespace Frame

theorem mem_bind {name : String} {value : Value} {frame : Frame} {p : String × Value}
    (h : p ∈ frame.bind name value) : p.2 = value ∨ p ∈ frame := by
  induction frame with
  | nil =>
      rw [bind, List.mem_singleton] at h
      exact .inl (by rw [h])
  | cons q rest ih =>
      obtain ⟨n, v⟩ := q
      rw [bind] at h
      split at h
      · rcases List.mem_cons.mp h with rfl | h
        · exact .inl rfl
        · exact .inr (List.mem_cons_of_mem _ h)
      · rcases List.mem_cons.mp h with rfl | h
        · exact .inr List.mem_cons_self
        · exact (ih h).imp_right (List.mem_cons_of_mem _)

theorem mem_ofBindings {bindings : List (String × Value)} {p : String × Value}
    (h : p ∈ ofBindings bindings) : ∃ b ∈ bindings, p.2 = b.2 := by
  have hfold : ∀ frame : Frame,
      p ∈ bindings.foldl (fun frame (b : String × Value) => frame.bind b.1 b.2) frame →
        (∃ b ∈ bindings, p.2 = b.2) ∨ p ∈ frame := by
    clear h
    induction bindings with
    | nil => exact fun _ h => .inr h
    | cons b rest ih =>
        intro frame h
        rcases ih _ h with ⟨b', hb', heq⟩ | h
        · exact .inl ⟨b', List.mem_cons_of_mem _ hb', heq⟩
        · exact (mem_bind h).imp_left fun heq => ⟨b, List.mem_cons_self, heq⟩
  rcases hfold [] h with hb | h
  · exact hb
  · cases h

theorem All.child {P : Value → Prop} {s : Scope} (h : All P s.frames) {vs : List Value}
    (hvs : ∀ v ∈ vs, P v) (ps : List String) : All P (s.child (ps.zip vs)).frames := by
  intro frame hframe p hp
  rcases List.mem_cons.mp hframe with rfl | hframe
  · obtain ⟨⟨x, v⟩, hb, heq⟩ := mem_ofBindings hp
    rw [heq]
    exact hvs v (List.of_mem_zip hb).2
  · exact h frame hframe p hp

theorem All.lookup {P : Value → Prop} {s : Scope} (h : All P s.frames) {x : String} {v : Value}
    (hv : s.lookup x = some v) : P v := by
  obtain ⟨frame, hframe, hv⟩ := List.exists_of_findSome?_eq_some hv
  obtain ⟨l₁, l₂, rfl, -⟩ := List.lookup_eq_some_iff.mp hv
  exact h _ hframe (x, v) (by simp)

theorem all_ofProperties {P : Value → Prop} (hP : ∀ s, P (.string s)) (properties : List Property) :
    All P (Scope.ofProperties properties).frames := by
  intro frame hframe p hp
  cases List.mem_singleton.mp hframe
  obtain ⟨b, hb, heq⟩ := mem_ofBindings hp
  obtain ⟨q, -, rfl⟩ := List.mem_map.mp hb
  rw [heq]
  exact hP q.value

end Frame

namespace Dictionary

theorem mem_of_get? {es : List (Value × Value)} {k v : Value} (h : get? es k = some v) :
    ∃ p ∈ es, p.2 = v := by
  obtain ⟨p, hp, rfl⟩ := Option.map_eq_some_iff.mp h
  exact ⟨p, List.mem_of_find?_eq_some hp, rfl⟩

theorem mem_of_getName? {o : Origin} {es : List (Value × Value)} {name : String} {v : Value}
    (h : getName? o es name = some v) : ∃ p ∈ es, p.2 = v := by
  cases o with
  | template => exact mem_of_get? h
  | host =>
      obtain ⟨p, hp, rfl⟩ := Option.map_eq_some_iff.mp h
      exact ⟨p, List.mem_of_find?_eq_some hp, rfl⟩

theorem mem_of_lookup {o : Origin} {es : List (Value × Value)} {k v : Value}
    (h : lookup o es k = .ok (some v)) : ∃ p ∈ es, p.2 = v := by
  unfold lookup at h
  split at h
  · cases h
  · split at h
    · exact mem_of_get? (Except.ok.inj h)
    · obtain ⟨p, hp, rfl⟩ := Option.map_eq_some_iff.mp (Except.ok.inj h)
      exact ⟨p, List.mem_of_find?_eq_some hp, rfl⟩

end Dictionary

/-! ## Invariants of values -/

/-- A predicate `P` on values that evaluation keeps, when all nodes of the
template satisfy `Q` and all values of the run `S`. -/
structure Keeps (context : Context) (Q : Expr → Prop) (S P : Value → Prop) : Prop where
  integer : ∀ {l : Location} {n : Int}, Q (.integer l n) → P (.integer n)
  float : ∀ x : Binary64, P (.float x)
  string : ∀ s : String, P (.string s)
  boolean : ∀ b : Bool, P (.boolean b)
  builtin : ∀ f ∈ context.registry.functions, P (.builtin f)
  list : ∀ {vs : List Value}, (∀ v ∈ vs, P v) → P (.list .template vs)
  elements : ∀ {o : Origin} {vs : List Value}, P (.list o vs) → ∀ v ∈ vs, P v
  dictionary : ∀ {es : List (Value × Value)},
    (∀ p ∈ es, p.1.keyFault? = none ∧ P p.1 ∧ P p.2) →
      P (.dictionary .template (Dictionary.putAll Value.sameKey es))
  values : ∀ {o : Origin} {es : List (Value × Value)}, P (.dictionary o es) → ∀ p ∈ es, P p.2
  closure : ∀ {ps : List String} {b : Expr} {frames : List Frame},
    P (.closure ps b frames) ↔ (∀ n ∈ b.nodes, Q n) ∧ Frame.All P frames
  routine : ∀ {f : Function} {l : Location} {vs : List Value} {r r' : Record} {v : Value},
    P (.builtin f) → (∀ v ∈ vs, P v ∧ S v) →
      runRoutine context l f vs r = (.ok v, r') → P v

/-- An evaluation of nodes that satisfy `Q`, in a scope whose values satisfy
`P`. -/
structure Visit.Fits (Q : Expr → Prop) (P : Value → Prop) (x : Visit) : Prop where
  nodes : ∀ n ∈ x.expr.nodes, Q n
  frames : Frame.All P x.scope.frames

/-- A predicate `P` on values that the evaluations `V` keep, of which each starts only
such. A closure has `P` if one of them makes it in a scope whose values have `P`; of a
closure that has `P`, the nodes satisfy `Q`, and what it captured has `P` again. -/
structure Upholds (context : Context) (V : Visit → Prop) (Q : Expr → Prop)
    (S P : Value → Prop) : Prop where
  step : ∀ {x y : Visit}, V x → Visit.Starts context x y → V y
  integer : ∀ {l : Location} {n : Int}, Q (.integer l n) → P (.integer n)
  float : ∀ x : Binary64, P (.float x)
  string : ∀ s : String, P (.string s)
  boolean : ∀ b : Bool, P (.boolean b)
  builtin : ∀ f ∈ context.registry.functions, P (.builtin f)
  list : ∀ {vs : List Value}, (∀ v ∈ vs, P v) → P (.list .template vs)
  elements : ∀ {o : Origin} {vs : List Value}, P (.list o vs) → ∀ v ∈ vs, P v
  dictionary : ∀ {es : List (Value × Value)},
    (∀ p ∈ es, p.1.keyFault? = none ∧ P p.1 ∧ P p.2) →
      P (.dictionary .template (Dictionary.putAll Value.sameKey es))
  values : ∀ {o : Origin} {es : List (Value × Value)}, P (.dictionary o es) → ∀ p ∈ es, P p.2
  literal : ∀ {n : Nat} {s : Scope} {l : Location} {ps : List String} {b : Expr} {r : Record},
    V ⟨n, s, .function l ps b, r⟩ → (∀ m ∈ (Expr.function l ps b).nodes, Q m) →
      Frame.All P s.frames → P (.closure ps b s.frames)
  closure : ∀ {ps : List String} {b : Expr} {frames : List Frame},
    P (.closure ps b frames) → (∀ n ∈ b.nodes, Q n) ∧ Frame.All P frames
  routine : ∀ {f : Function} {l : Location} {vs : List Value} {r r' : Record} {v : Value},
    P (.builtin f) → (∀ v ∈ vs, P v ∧ S v) →
      runRoutine context l f vs r = (.ok v, r') → P v

/-- A predicate that closures have by their bodies and scopes, whichever evaluation
makes them. -/
theorem Keeps.upholds {context : Context} {Q : Expr → Prop} {S P : Value → Prop}
    (hP : Keeps context Q S P) : Upholds context (fun _ => True) Q S P :=
  { hP with
    step := fun _ _ => trivial
    literal := fun _ hnodes hframes =>
      hP.closure.mpr ⟨fun m hm => hnodes m (List.mem_cons_of_mem _ hm), hframes⟩
    closure := hP.closure.mp }

namespace Upholds

variable {context : Context} {V : Visit → Prop} {Q : Expr → Prop} {S P : Value → Prop}
  (hP : Upholds context V Q S P) {x y : Visit}

/-- A part of an expression, in the same scope. -/
theorem fits_part {n n' : Nat} {s : Scope} {e e' : Expr} {r r' : Record}
    (hx : Visit.Fits Q P ⟨n, s, e, r⟩) (he : e'.nodes ⊆ e.nodes) :
    Visit.Fits Q P ⟨n', s, e', r'⟩ :=
  ⟨fun m hm => hx.nodes m (he hm), hx.frames⟩

include hP

/-- What an evaluation starts is fit if it is itself, once the values are that
its parts come to. -/
theorem fits_of_starts (hx : x.Fits Q P) (hs : Visit.Starts context x y)
    (hvalues : ∀ {z : Visit} {v : Value} {r : Record}, Visit.Starts context x z → z.Fits Q P →
      z.run context = (.ok v, r) → P v) : y.Fits Q P := by
  cases hs with
  | member => exact fits_part hx (by simp [Expr.nodes])
  | base => exact fits_part hx (by simp [Expr.nodes])
  | key => exact fits_part hx (by simp [Expr.nodes])
  | callee => exact fits_part hx (by simp [Expr.nodes])
  | argument _ he =>
      exact fits_part hx fun m hm => by simp [Expr.nodes, Expr.subset_nodesAll he.mem hm]
  | condition => exact fits_part hx (by simp [Expr.nodes])
  | yes => exact fits_part hx fun m hm => by simp [Expr.nodes, hm]
  | no => exact fits_part hx fun m hm => by simp [Expr.nodes, hm]
  | element he =>
      exact fits_part hx fun m hm => by simp [Expr.nodes, Expr.subset_nodesAll he.mem hm]
  | entryKey he =>
      obtain ⟨p, hp, rfl⟩ := he.mem
      exact fits_part hx fun m hm => by simp [Expr.nodes, (Expr.subset_nodesEntries hp).1 hm]
  | entryValue he =>
      obtain ⟨p, hp, rfl⟩ := he.mem
      exact fits_part hx fun m hm => by simp [Expr.nodes, (Expr.subset_nodesEntries hp).2 hm]
  | body hf hvs hlength =>
      -- the closure is a value of the callee, and its arguments are values too
      obtain ⟨hnodes, hframes⟩ :=
        hP.closure (hvalues .callee (fits_part hx (by simp [Expr.nodes])) hf)
      refine ⟨hnodes, Frame.All.child (s := ⟨_⟩) hframes (fun v hv => ?_) _⟩
      obtain ⟨e, r₁, r₂, hto, he⟩ := evalAll_values hvs v hv
      refine hvalues (.argument hf hto) (fits_part hx fun m hm => ?_) he
      simp [Expr.nodes, Expr.subset_nodesAll hto.mem hm]

theorem resolve_keeps {s : Scope} (hs : Frame.All P s.frames) {l : Location} {w : String}
    {r r' : Record} {v : Value} (h : resolve context s l w r = (.ok v, r')) : P v := by
  unfold resolve at h
  cases hv : s.lookup w with
  | some u =>
      rw [hv] at h
      cases h
      exact hs.lookup hv
  | none =>
      rw [hv] at h
      cases hf : context.registry.find? w with
      | some f =>
          simp only [hf] at h
          cases h
          exact hP.builtin f (List.mem_of_find?_eq_some hf)
      | none =>
          simp only [hf] at h
          split_ifs at h
          · cases h
            exact hP.boolean true
          · cases h
            exact hP.boolean false
          · cases h

theorem member_keeps {l : Location} {u : Value} (hu : P u) {w : String} {r r' : Record}
    {v : Value} (h : member l u w r = (.ok v, r')) : P v := by
  unfold member at h
  cases u with
  | dictionary o es =>
      cases hv : Dictionary.getName? o es w with
      | none =>
          simp only [hv] at h
          cases h
      | some v' =>
          simp only [hv] at h
          cases h
          obtain ⟨p, hp, rfl⟩ := Dictionary.mem_of_getName? hv
          exact hP.values hu p hp
  | _ => cases h

theorem element_keeps {l : Location} {o : Origin} {vs : List Value} (hvs : P (.list o vs))
    {k : Value} {r r' : Record} {v : Value} (h : index l (.list o vs) k r = (.ok v, r')) :
    P v := by
  unfold index at h
  cases k with
  | integer i =>
      dsimp only at h
      split_ifs at h
      · cases hv : vs[i.toNat]? with
        | none =>
            rw [hv] at h
            cases h
        | some u =>
            rw [hv] at h
            cases h
            exact hP.elements hvs v (List.mem_of_getElem? hv)
      · cases h
  | _ => cases h

theorem index_keeps {l : Location} {u k : Value} (hu : P u) {r r' : Record} {v : Value}
    (h : index l u k r = (.ok v, r')) : P v := by
  cases u with
  | list o vs => exact hP.element_keeps hu h
  | dictionary o es =>
      unfold index at h
      dsimp only at h
      cases hv : Dictionary.lookup o es k with
      | error fault =>
          rw [hv] at h
          cases h
      | ok found =>
          rw [hv] at h
          cases found with
          | none => cases h
          | some u =>
              cases h
              obtain ⟨p, hp, rfl⟩ := Dictionary.mem_of_lookup hv
              exact hP.values hu p hp
  | _ =>
      unfold index at h
      cases h

theorem builtin_keeps {n : Nat} {l : Location} {f : Function} (hf : P (.builtin f))
    {vs : List Value} (hvs : ∀ v ∈ vs, P v ∧ S v) {r r' : Record} {v : Value}
    (h : callWithin context n l (.builtin f) vs r = (.ok v, r')) : P v := by
  rw [callWithin_eq] at h
  dsimp only at h
  split_ifs at h
  · cases h
  · cases h
  · obtain ⟨u, r₁, hu, h⟩ := ok_of_bind h
    split_ifs at h
    · cases h
      exact hP.routine hf hvs hu
    · cases h

/-- Every value of a fit evaluation satisfies the predicate. -/
theorem value (hV : V x) (hx : x.Fits Q P)
    (hS : ∀ y, Relation.ReflTransGen (Visit.Starts context) x y →
      ∀ v r, y.run context = (.ok v, r) → S v)
    {v : Value} {r : Record} (h : x.run context = (.ok v, r)) : P v := by
  induction x using (Visit.wellFounded_starts context).induction generalizing v r with
  | h x ih =>
      have hstarted : ∀ {z : Visit} {v : Value} {r : Record}, Visit.Starts context x z →
          z.Fits Q P → z.run context = (.ok v, r) → P v ∧ S v := by
        intro z v r hs hz hv
        exact ⟨ih z hs (hP.step hV hs) hz (fun y hy => hS y (.head hs hy)) hv,
          hS z (.single hs) v r hv⟩
      have hparts : ∀ {z : Visit} {v : Value} {r : Record}, Visit.Starts context x z →
          z.run context = (.ok v, r) → P v ∧ S v := by
        intro z v r hs hv
        refine hstarted hs ?_ hv
        exact hP.fits_of_starts hx hs fun hs hz hv => (hstarted hs hz hv).1
      obtain ⟨n, s, e, r₀⟩ := x
      unfold Visit.run at h
      dsimp only at h
      cases e with
      | string l u =>
          rw [eval_string] at h
          cases h
          exact hP.string u
      | integer l i =>
          rw [eval_integer] at h
          cases h
          exact hP.integer (hx.nodes _ (Expr.self_mem_nodes _))
      | float l u =>
          rw [eval_float] at h
          cases h
          exact hP.float u
      | name l w =>
          rw [eval_name] at h
          exact hP.resolve_keeps hx.frames h
      | member l b w =>
          rw [eval_member] at h
          obtain ⟨u, r₁, hu, h⟩ := ok_of_bind h
          exact hP.member_keeps (hparts .member hu).1 h
      | index l b k =>
          rw [eval_index] at h
          obtain ⟨u, r₁, hu, h⟩ := ok_of_bind h
          obtain ⟨i, r₂, hi, h⟩ := ok_of_bind h
          exact hP.index_keeps (hparts .base hu).1 h
      | call l f es =>
          rw [eval_call] at h
          obtain ⟨u, r₁, hu, h⟩ := ok_of_bind h
          obtain ⟨vs, r₂, hvs, h⟩ := ok_of_bind h
          have harguments : ∀ v ∈ vs, P v ∧ S v := by
            intro v hv
            obtain ⟨e, r₃, r₄, hto, he⟩ := evalAll_values hvs v hv
            exact hparts (.argument hu hto) he
          cases u with
          | builtin g => exact hP.builtin_keeps (hparts .callee hu).1 harguments h
          | closure ps b frames =>
              by_cases hlength : vs.length = ps.length
              · cases n with
                | zero =>
                    rw [callWithin_eq] at h
                    dsimp only at h
                    rw [if_neg (not_not.mpr hlength)] at h
                    cases h
                | succ left =>
                    rw [callWithin_closure hlength] at h
                    exact (hparts (.body hu hvs hlength) h).1
              · rw [callWithin_eq] at h
                dsimp only at h
                rw [if_pos hlength] at h
                cases h
          | _ =>
              rw [callWithin_eq] at h
              cases h
      | choice l c a b =>
          rw [eval_choice] at h
          obtain ⟨u, r₁, hu, h⟩ := ok_of_bind h
          cases u with
          | boolean x =>
              cases x with
              | true => exact (hparts (.yes hu) h).1
              | false => exact (hparts (.no hu) h).1
          | _ => cases h
      | list l es =>
          rw [eval_list] at h
          obtain ⟨vs, r₁, hvs, h⟩ := ok_of_bind h
          cases h
          refine hP.list fun v hv => ?_
          obtain ⟨e, r₃, r₄, hto, he⟩ := evalAll_values hvs v hv
          exact (hparts (.element hto) he).1
      | dictionary l es =>
          rw [eval_dictionary] at h
          obtain ⟨ps, r₁, hps, h⟩ := ok_of_bind h
          cases h
          refine hP.dictionary fun p hp => ?_
          obtain ⟨hpass, ⟨e, r₃, r₄, hto, he⟩, e', r₃', r₄', hto', he'⟩ :=
            evalEntries_values hps p hp
          exact ⟨hpass, (hparts (.entryKey hto) he).1, (hparts (.entryValue hto') he').1⟩
      | function l ps b =>
          rw [eval_function] at h
          cases h
          exact hP.literal hV hx.nodes hx.frames

variable {t : Template} {scope : Scope} {record : Record}

/-- All evaluations of a run are fit if the template and its scope are. -/
theorem visits (hvisits : ∀ {y : Visit}, t.Visits context scope record y → V y)
    (hnodes : ∀ n ∈ Expr.nodesAll t.children, Q n) (hscope : Frame.All P scope.frames)
    (hS : ∀ y, t.Visits context scope record y → ∀ v r, y.run context = (.ok v, r) → S v)
    (hx : t.Visits context scope record x) : x.Fits Q P := by
  induction hx with
  | child he =>
      refine ⟨fun n hn => hnodes n ?_, hscope⟩
      rw [Expr.nodesAll_eq]
      exact List.mem_flatMap.mpr ⟨_, he.mem, hn⟩
  | step hx hs ih =>
      refine hP.fits_of_starts ih hs fun {z} {v} {r} hs hz hv => ?_
      exact hP.value (hvisits (hx.step hs)) hz (fun y hy => hS y ((hx.step hs).trans hy)) hv

end Upholds

namespace Keeps

variable {context : Context} {Q : Expr → Prop} {S P : Value → Prop}
  (hP : Keeps context Q S P) {x : Visit}
include hP

theorem value (hx : x.Fits Q P)
    (hS : ∀ y, Relation.ReflTransGen (Visit.Starts context) x y →
      ∀ v r, y.run context = (.ok v, r) → S v)
    {v : Value} {r : Record} (h : x.run context = (.ok v, r)) : P v :=
  hP.upholds.value trivial hx hS h

variable {t : Template} {scope : Scope} {record : Record}

theorem visits (hnodes : ∀ n ∈ Expr.nodesAll t.children, Q n)
    (hscope : Frame.All P scope.frames)
    (hS : ∀ y, t.Visits context scope record y → ∀ v r, y.run context = (.ok v, r) → S v)
    (hx : t.Visits context scope record x) : x.Fits Q P :=
  hP.upholds.visits (fun _ => trivial) hnodes hscope hS hx

end Keeps

end Inlay
