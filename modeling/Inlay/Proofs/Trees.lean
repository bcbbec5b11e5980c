import Mathlib.Logic.Basic
import Inlay.Expr

/-!
# Trees of expressions

What is said of an expression by looking at all of its nodes: the nodes
themselves, the same tree with other places, and whether two trees are the same
piece of source. The definitions follow the constructors,
with a companion for the elements of a list and one for the entries of a
dictionary; `Expr.induction` gives the induction that goes with them, where an
element is any member of its list.
-/

namespace Inlay

namespace Expr

/-! ## Induction -/

/-- Induction over expressions in which the parts of calls, lists and
dictionaries are reached by membership. -/
@[elab_as_elim]
theorem induction {P : Expr → Prop} (string : ∀ l v, P (.string l v))
    (integer : ∀ l n, P (.integer l n)) (float : ∀ l x, P (.float l x))
    (name : ∀ l w, P (.name l w)) (member : ∀ l b w, P b → P (.member l b w))
    (index : ∀ l b k, P b → P k → P (.index l b k))
    (call : ∀ l f es, P f → (∀ e ∈ es, P e) → P (.call l f es))
    (choice : ∀ l c a b, P c → P a → P b → P (.choice l c a b))
    (list : ∀ l es, (∀ e ∈ es, P e) → P (.list l es))
    (dictionary : ∀ l es, (∀ p ∈ es, P p.1 ∧ P p.2) → P (.dictionary l es))
    (function : ∀ l ps b, P b → P (.function l ps b)) (e : Expr) : P e :=
  @Expr.rec P (fun es => ∀ e ∈ es, P e) (fun es => ∀ p ∈ es, P p.1 ∧ P p.2)
    (fun p => P p.1 ∧ P p.2) string integer float name member index call choice list dictionary
    function (fun _ h => nomatch h) (fun _ _ hx hs => List.forall_mem_cons.mpr ⟨hx, hs⟩)
    (fun _ h => nomatch h) (fun _ _ hx hs => List.forall_mem_cons.mpr ⟨hx, hs⟩)
    (fun _ _ hk hv => ⟨hk, hv⟩) e

/-! ## Nodes -/

mutual

/-- The nodes of an expression, itself first. -/
def nodes : Expr → List Expr
  | .member l b w => .member l b w :: nodes b
  | .index l b k => .index l b k :: (nodes b ++ nodes k)
  | .call l f es => .call l f es :: (nodes f ++ nodesAll es)
  | .choice l c a b => .choice l c a b :: (nodes c ++ (nodes a ++ nodes b))
  | .list l es => .list l es :: nodesAll es
  | .dictionary l es => .dictionary l es :: nodesEntries es
  | .function l ps b => .function l ps b :: nodes b
  | e => [e]

def nodesAll : List Expr → List Expr
  | [] => []
  | e :: es => nodes e ++ nodesAll es

def nodesEntries : List (Expr × Expr) → List Expr
  | [] => []
  | (k, v) :: es => nodes k ++ (nodes v ++ nodesEntries es)

end

theorem nodesAll_eq (es : List Expr) : nodesAll es = es.flatMap nodes := by
  induction es with
  | nil => rfl
  | cons e es ih => rw [nodesAll, ih, List.flatMap_cons]

theorem nodesEntries_eq (es : List (Expr × Expr)) :
    nodesEntries es = es.flatMap fun p => nodes p.1 ++ nodes p.2 := by
  induction es with
  | nil => rfl
  | cons p es ih => rw [nodesEntries, ih, List.flatMap_cons, List.append_assoc]

theorem self_mem_nodes (e : Expr) : e ∈ e.nodes := by
  cases e <;> simp [nodes]

theorem subset_nodesAll {e : Expr} {es : List Expr} (h : e ∈ es) :
    e.nodes ⊆ nodesAll es := by
  intro d hd
  rw [nodesAll_eq]
  exact List.mem_flatMap.mpr ⟨e, h, hd⟩

theorem forall_mem_nodesAll {p : Expr → Prop} {es : List Expr} :
    (∀ n ∈ nodesAll es, p n) ↔ ∀ e ∈ es, ∀ n ∈ e.nodes, p n := by
  rw [nodesAll_eq]
  exact List.forall_mem_flatMap

theorem subset_nodesEntries {p : Expr × Expr} {es : List (Expr × Expr)} (h : p ∈ es) :
    p.1.nodes ⊆ nodesEntries es ∧ p.2.nodes ⊆ nodesEntries es := by
  rw [nodesEntries_eq]
  exact ⟨fun d hd => List.mem_flatMap.mpr ⟨p, h, List.mem_append_left _ hd⟩,
    fun d hd => List.mem_flatMap.mpr ⟨p, h, List.mem_append_right _ hd⟩⟩

/-- The nodes of a node are among the nodes of the tree. -/
theorem nodes_subset {d e : Expr} (h : d ∈ e.nodes) : d.nodes ⊆ e.nodes := by
  induction e using induction with
  | string | integer | float | name =>
      obtain rfl := List.mem_singleton.mp h
      exact List.Subset.refl _
  | member l b w ih =>
      rcases List.mem_cons.mp h with rfl | h
      · exact List.Subset.refl _
      · exact List.subset_cons_of_subset _ (ih h)
  | index l b k ihb ihk =>
      rcases List.mem_cons.mp h with rfl | h
      · exact List.Subset.refl _
      · refine List.subset_cons_of_subset _ ?_
        rcases List.mem_append.mp h with h | h
        · exact List.subset_append_of_subset_left _ (ihb h)
        · exact List.subset_append_of_subset_right _ (ihk h)
  | call l f es ihf ihes =>
      rcases List.mem_cons.mp h with rfl | h
      · exact List.Subset.refl _
      · refine List.subset_cons_of_subset _ ?_
        rcases List.mem_append.mp h with h | h
        · exact List.subset_append_of_subset_left _ (ihf h)
        · refine List.subset_append_of_subset_right _ ?_
          rw [nodesAll_eq] at h
          obtain ⟨e, he, hd⟩ := List.mem_flatMap.mp h
          exact List.Subset.trans (ihes e he hd) (subset_nodesAll he)
  | choice l c a b ihc iha ihb =>
      rcases List.mem_cons.mp h with rfl | h
      · exact List.Subset.refl _
      · refine List.subset_cons_of_subset _ ?_
        rcases List.mem_append.mp h with h | h
        · exact List.subset_append_of_subset_left _ (ihc h)
        · refine List.subset_append_of_subset_right _ ?_
          rcases List.mem_append.mp h with h | h
          · exact List.subset_append_of_subset_left _ (iha h)
          · exact List.subset_append_of_subset_right _ (ihb h)
  | list l es ih =>
      rcases List.mem_cons.mp h with rfl | h
      · exact List.Subset.refl _
      · refine List.subset_cons_of_subset _ ?_
        rw [nodesAll_eq] at h
        obtain ⟨e, he, hd⟩ := List.mem_flatMap.mp h
        exact List.Subset.trans (ih e he hd) (subset_nodesAll he)
  | dictionary l es ih =>
      rcases List.mem_cons.mp h with rfl | h
      · exact List.Subset.refl _
      · refine List.subset_cons_of_subset _ ?_
        rw [nodesEntries_eq] at h
        obtain ⟨p, hp, hd⟩ := List.mem_flatMap.mp h
        rcases List.mem_append.mp hd with hd | hd
        · exact List.Subset.trans ((ih p hp).1 hd) (subset_nodesEntries hp).1
        · exact List.Subset.trans ((ih p hp).2 hd) (subset_nodesEntries hp).2
  | function l ps b ih =>
      rcases List.mem_cons.mp h with rfl | h
      · exact List.Subset.refl _
      · exact List.subset_cons_of_subset _ (ih h)

theorem nodes_subset_nodesAll {d : Expr} {es : List Expr} (h : d ∈ nodesAll es) :
    d.nodes ⊆ nodesAll es := by
  rw [nodesAll_eq] at h
  obtain ⟨e, he, hd⟩ := List.mem_flatMap.mp h
  exact List.Subset.trans (nodes_subset hd) (subset_nodesAll he)

/-! ## Places -/

mutual

/-- The same tree with its places moved by `f`. -/
def relocate (f : Location → Location) : Expr → Expr
  | .string l v => .string (f l) v
  | .integer l n => .integer (f l) n
  | .float l x => .float (f l) x
  | .name l w => .name (f l) w
  | .member l b w => .member (f l) (relocate f b) w
  | .index l b k => .index (f l) (relocate f b) (relocate f k)
  | .call l g es => .call (f l) (relocate f g) (relocateAll f es)
  | .choice l c a b => .choice (f l) (relocate f c) (relocate f a) (relocate f b)
  | .list l es => .list (f l) (relocateAll f es)
  | .dictionary l es => .dictionary (f l) (relocateEntries f es)
  | .function l ps b => .function (f l) ps (relocate f b)

/-- Elements with their places moved. -/
def relocateAll (f : Location → Location) : List Expr → List Expr
  | [] => []
  | e :: es => relocate f e :: relocateAll f es

/-- Entries with their places moved. -/
def relocateEntries (f : Location → Location) : List (Expr × Expr) → List (Expr × Expr)
  | [] => []
  | (k, v) :: es => (relocate f k, relocate f v) :: relocateEntries f es

end

theorem relocateAll_eq (f : Location → Location) (es : List Expr) :
    relocateAll f es = es.map (relocate f) := by
  induction es with
  | nil => rfl
  | cons e es ih => rw [relocateAll, ih, List.map_cons]

theorem relocateEntries_eq (f : Location → Location) (es : List (Expr × Expr)) :
    relocateEntries f es = es.map fun p => (relocate f p.1, relocate f p.2) := by
  induction es with
  | nil => rfl
  | cons p es ih => rw [relocateEntries, ih, List.map_cons]

/-! ## Depth -/

theorem depthAll_map {f : Expr → Expr} {es : List Expr} (h : ∀ e ∈ es, (f e).depth = e.depth) :
    depthAll (es.map f) = depthAll es := by
  induction es with
  | nil => rfl
  | cons e es ih =>
      obtain ⟨he, hes⟩ := List.forall_mem_cons.mp h
      rw [List.map_cons, depthAll, depthAll, he, ih hes]

theorem depthEntries_map {f : Expr → Expr} {es : List (Expr × Expr)}
    (h : ∀ p ∈ es, (f p.1).depth = p.1.depth ∧ (f p.2).depth = p.2.depth) :
    depthEntries (es.map fun p => (f p.1, f p.2)) = depthEntries es := by
  induction es with
  | nil => rfl
  | cons p es ih =>
      obtain ⟨hp, hes⟩ := List.forall_mem_cons.mp h
      rw [List.map_cons, depthEntries, depthEntries, hp.1, hp.2, ih hes]

/-- A tree nests as deep at other places. -/
theorem depth_relocate (f : Location → Location) (e : Expr) :
    (e.relocate f).depth = e.depth := by
  induction e using induction with
  | member l b w ih => rw [relocate, depth, depth, ih]
  | index l b k ihb ihk => rw [relocate, depth, depth, ihb, ihk]
  | call l g es ihg ihes =>
      rw [relocate, depth, depth, ihg, relocateAll_eq, depthAll_map ihes]
  | choice l c a b ihc iha ihb => rw [relocate, depth, depth, ihc, iha, ihb]
  | list l es ih => rw [relocate, depth, depth, relocateAll_eq, depthAll_map ih]
  | dictionary l es ih =>
      rw [relocate, depth, depth, relocateEntries_eq, depthEntries_map ih]
  | function l ps b ih => rw [relocate, depth, depth, ih]
  | _ => rfl

/-- The tree with all of its places forgotten. -/
def placeless (e : Expr) : Expr := e.relocate fun _ => .start

/-! ## Sameness -/

/-- Pieces of source at different places are different. -/
theorem location_of_same {a b : Expr} (h : a.same b = true) : a.location = b.location := by
  cases a <;> cases b <;> first
    | cases h
    | (simp only [same, Bool.and_eq_true, beq_iff_eq] at h; simp only [location, h])

theorem same_of_location_ne {a b : Expr} (h : a.location ≠ b.location) : a.same b = false :=
  Bool.eq_false_iff.mpr fun hsame => h (location_of_same hsame)

theorem sameAll_map {f g : Expr → Expr} {as bs : List Expr}
    (h : ∀ a ∈ as, ∀ b ∈ bs, (f a).same (g b) = a.same b) :
    sameAll (as.map f) (bs.map g) = sameAll as bs := by
  induction as generalizing bs with
  | nil => cases bs <;> rfl
  | cons a as ih =>
      cases bs with
      | nil => rfl
      | cons b bs =>
          have hrest := ih fun a ha b hb =>
            h a (List.mem_cons_of_mem _ ha) b (List.mem_cons_of_mem _ hb)
          exact congrArg₂ and (h a List.mem_cons_self b List.mem_cons_self) hrest

theorem sameEntries_map {f g : Expr → Expr} {as bs : List (Expr × Expr)}
    (h : ∀ p ∈ as, ∀ q ∈ bs,
      (f p.1).same (g q.1) = p.1.same q.1 ∧ (f p.2).same (g q.2) = p.2.same q.2) :
    sameEntries (as.map fun p => (f p.1, f p.2)) (bs.map fun q => (g q.1, g q.2)) =
      sameEntries as bs := by
  induction as generalizing bs with
  | nil => cases bs <;> rfl
  | cons p as ih =>
      cases bs with
      | nil => rfl
      | cons q bs =>
          have hrest := ih fun p hp q hq =>
            h p (List.mem_cons_of_mem _ hp) q (List.mem_cons_of_mem _ hq)
          obtain ⟨hk, hv⟩ := h p List.mem_cons_self q List.mem_cons_self
          exact congrArg₂ and (congrArg₂ and hk hv) hrest

end Expr

end Inlay
