import Mathlib.Data.List.Nodup
import Inlay.Proofs.TreePlaces

/-!
# Strings put for a name

`Template.substitute` puts a string in the place of every use of a name, but
for the uses in functions that have the name as a parameter. Where no two nodes
stand at one place, the places alone tell which nodes are replaced
(`Expr.Fits`), whatever piece of the template is looked at and wherever it
stands. So the pieces are the same source after the substitution just if they
were before (`Expr.same_substitute`).
-/

namespace Inlay

namespace Expr

mutual

/-- The expression with the string `v` put for the name `n`. Nothing is put for
it where a function around binds it, which `bound` says of the expression. -/
def substitute (n v : String) (bound : Bool) : Expr → Expr
  | .string l u => .string l u
  | .integer l i => .integer l i
  | .float l x => .float l x
  | .name l w => if !bound && w == n then .string l v else .name l w
  | .member l b w => .member l (substitute n v bound b) w
  | .index l b k => .index l (substitute n v bound b) (substitute n v bound k)
  | .call l f es => .call l (substitute n v bound f) (substituteAll n v bound es)
  | .choice l c a b =>
    .choice l (substitute n v bound c) (substitute n v bound a) (substitute n v bound b)
  | .list l es => .list l (substituteAll n v bound es)
  | .dictionary l es => .dictionary l (substituteEntries n v bound es)
  | .function l ps b => .function l ps (substitute n v (bound || ps.contains n) b)

def substituteAll (n v : String) (bound : Bool) : List Expr → List Expr
  | [] => []
  | e :: es => substitute n v bound e :: substituteAll n v bound es

def substituteEntries (n v : String) (bound : Bool) : List (Expr × Expr) → List (Expr × Expr)
  | [] => []
  | (k, e) :: es =>
    (substitute n v bound k, substitute n v bound e) :: substituteEntries n v bound es

end

theorem substituteAll_eq (n v : String) (bound : Bool) (es : List Expr) :
    substituteAll n v bound es = es.map (substitute n v bound) := by
  induction es with
  | nil => rfl
  | cons e es ih => rw [substituteAll, ih, List.map_cons]

theorem substituteEntries_eq (n v : String) (bound : Bool) (es : List (Expr × Expr)) :
    substituteEntries n v bound es =
      es.map fun p => (substitute n v bound p.1, substitute n v bound p.2) := by
  induction es with
  | nil => rfl
  | cons p es ih => rw [substituteEntries, ih, List.map_cons]

theorem substitute_name (n v : String) (bound : Bool) (l : Location) (w : String) :
    (name l w).substitute n v bound =
      if !bound && w == n then .string l v else .name l w := rfl

theorem location_substitute (n v : String) (bound : Bool) (e : Expr) :
    (e.substitute n v bound).location = e.location := by
  cases e with
  | name l w =>
      rw [substitute_name]
      split <;> rfl
  | _ => rfl

theorem depth_substitute (n v : String) (bound : Bool) (e : Expr) :
    (e.substitute n v bound).depth = e.depth := by
  induction e using induction generalizing bound with
  | name l w =>
      rw [substitute_name]
      split <;> rfl
  | member l b w ih => rw [substitute, depth, depth, ih]
  | index l b k ihb ihk => rw [substitute, depth, depth, ihb, ihk]
  | call l f es ihf ihes =>
      rw [substitute, depth, depth, ihf, substituteAll_eq, depthAll_map fun e he => ihes e he _]
  | choice l c a b ihc iha ihb => rw [substitute, depth, depth, ihc, iha, ihb]
  | list l es ih =>
      rw [substitute, depth, depth, substituteAll_eq, depthAll_map fun e he => ih e he _]
  | dictionary l es ih =>
      rw [substitute, depth, depth, substituteEntries_eq,
        depthEntries_map fun p hp => ⟨(ih p hp).1 _, (ih p hp).2 _⟩]
  | function l ps b ih => rw [substitute, depth, depth, ih]
  | _ => rfl

/-! ## Marks -/

mutual

/-- The places of the nodes of an expression, each with whether a string is put
there. -/
def marks (n : String) (bound : Bool) : Expr → List (Location × Bool)
  | .string l _ => [(l, false)]
  | .integer l _ => [(l, false)]
  | .float l _ => [(l, false)]
  | .name l w => [(l, !bound && w == n)]
  | .member l b _ => (l, false) :: marks n bound b
  | .index l b k => (l, false) :: (marks n bound b ++ marks n bound k)
  | .call l f es => (l, false) :: (marks n bound f ++ marksAll n bound es)
  | .choice l c a b => (l, false) :: (marks n bound c ++ (marks n bound a ++ marks n bound b))
  | .list l es => (l, false) :: marksAll n bound es
  | .dictionary l es => (l, false) :: marksEntries n bound es
  | .function l ps b => (l, false) :: marks n (bound || ps.contains n) b

def marksAll (n : String) (bound : Bool) : List Expr → List (Location × Bool)
  | [] => []
  | e :: es => marks n bound e ++ marksAll n bound es

def marksEntries (n : String) (bound : Bool) : List (Expr × Expr) → List (Location × Bool)
  | [] => []
  | (k, e) :: es => marks n bound k ++ (marks n bound e ++ marksEntries n bound es)

end

theorem marksAll_eq (n : String) (bound : Bool) (es : List Expr) :
    marksAll n bound es = es.flatMap (marks n bound) := by
  induction es with
  | nil => rfl
  | cons e es ih => rw [marksAll, ih, List.flatMap_cons]

theorem marksEntries_eq (n : String) (bound : Bool) (es : List (Expr × Expr)) :
    marksEntries n bound es = es.flatMap fun p => marks n bound p.1 ++ marks n bound p.2 := by
  induction es with
  | nil => rfl
  | cons p es ih => rw [marksEntries, ih, List.flatMap_cons, List.append_assoc]

/-- Marks stand at the places of the nodes. -/
theorem marks_places (n : String) (bound : Bool) (e : Expr) :
    (e.marks n bound).map Prod.fst = e.places := by
  induction e using induction generalizing bound with
  | member l b w ih => rw [marks, List.map_cons, ih, places_member]
  | index l b k ihb ihk =>
      rw [marks, List.map_cons, List.map_append, ihb, ihk, places_index]
  | call l f es ihf ihes =>
      rw [marks, List.map_cons, List.map_append, ihf, marksAll_eq, List.map_flatMap,
        List.flatMap_congr fun e he => ihes e he bound, places_call, placesAll_eq]
  | choice l c a b ihc iha ihb =>
      rw [marks, List.map_cons, List.map_append, List.map_append, ihc, iha, ihb, places_choice]
  | list l es ih =>
      rw [marks, List.map_cons, marksAll_eq, List.map_flatMap,
        List.flatMap_congr fun e he => ih e he bound, places_list, placesAll_eq]
  | dictionary l es ih =>
      rw [marks, List.map_cons, marksEntries_eq, List.map_flatMap, places_dictionary,
        placesEntries_eq]
      congr 1
      refine List.flatMap_congr fun p hp => ?_
      rw [List.map_append, (ih p hp).1, (ih p hp).2]
  | function l ps b ih => rw [marks, List.map_cons, ih, places_function]
  | _ => rfl

/-! ## Marks by place -/

/-- Whether the places in `F` tell which nodes of an expression are marked. -/
def Fits (F : Location → Prop) (n : String) (bound : Bool) (e : Expr) : Prop :=
  ∀ p ∈ e.marks n bound, F p.1 ↔ p.2 = true

section

variable {F : Location → Prop} {n : String} {bound : Bool} {l : Location}

/-- A node without a mark fits if its place is not in `F` and its parts fit. -/
theorem forall_mem_unmarked {rest : List (Location × Bool)} :
    (∀ p ∈ (l, false) :: rest, F p.1 ↔ p.2 = true) ↔
      ¬ F l ∧ ∀ p ∈ rest, F p.1 ↔ p.2 = true := by
  rw [List.forall_mem_cons]
  simp only [Bool.false_eq_true, iff_false]

theorem fits_name {w : String} :
    (name l w).Fits F n bound ↔ (F l ↔ bound = false ∧ w = n) := by
  refine List.forall_mem_singleton.trans ?_
  simp only [Bool.and_eq_true, Bool.not_eq_true', beq_iff_eq]

theorem fits_member {b : Expr} {w : String} :
    (member l b w).Fits F n bound ↔ ¬ F l ∧ b.Fits F n bound := forall_mem_unmarked

theorem fits_index {b k : Expr} :
    (index l b k).Fits F n bound ↔ ¬ F l ∧ b.Fits F n bound ∧ k.Fits F n bound :=
  forall_mem_unmarked.trans (and_congr_right fun _ => List.forall_mem_append)

theorem fits_call {f : Expr} {es : List Expr} :
    (call l f es).Fits F n bound ↔
      ¬ F l ∧ f.Fits F n bound ∧ ∀ e ∈ es, e.Fits F n bound := by
  refine forall_mem_unmarked.trans (and_congr_right fun _ => ?_)
  rw [List.forall_mem_append, marksAll_eq, List.forall_mem_flatMap]
  rfl

theorem fits_choice {c a b : Expr} :
    (choice l c a b).Fits F n bound ↔
      ¬ F l ∧ c.Fits F n bound ∧ a.Fits F n bound ∧ b.Fits F n bound := by
  refine forall_mem_unmarked.trans (and_congr_right fun _ => ?_)
  rw [List.forall_mem_append, List.forall_mem_append]
  rfl

theorem fits_list {es : List Expr} :
    (list l es).Fits F n bound ↔ ¬ F l ∧ ∀ e ∈ es, e.Fits F n bound := by
  refine forall_mem_unmarked.trans (and_congr_right fun _ => ?_)
  rw [marksAll_eq, List.forall_mem_flatMap]
  rfl

theorem fits_dictionary {es : List (Expr × Expr)} :
    (dictionary l es).Fits F n bound ↔
      ¬ F l ∧ ∀ p ∈ es, p.1.Fits F n bound ∧ p.2.Fits F n bound := by
  refine forall_mem_unmarked.trans (and_congr_right fun _ => ?_)
  rw [marksEntries_eq, List.forall_mem_flatMap]
  simp only [List.forall_mem_append]
  rfl

theorem fits_function {ps : List String} {b : Expr} :
    (function l ps b).Fits F n bound ↔ ¬ F l ∧ b.Fits F n (bound || ps.contains n) :=
  forall_mem_unmarked

/-- At a place in `F` stands the name itself, where nothing binds it. -/
theorem Fits.eq_name {e : Expr} (h : e.Fits F n bound) (hF : F e.location) :
    e = .name e.location n ∧ bound = false := by
  cases e with
  | name l w =>
      obtain ⟨hbound, rfl⟩ := (fits_name.mp h).mp hF
      exact ⟨rfl, hbound⟩
  | _ => exact absurd hF (forall_mem_unmarked.mp h).1

/-- Elsewhere a name stays. -/
theorem Fits.substitute_name {w : String} (h : (name l w).Fits F n bound) (hF : ¬ F l)
    (v : String) : (name l w).substitute n v bound = .name l w := by
  have hunmarked : ¬ (bound = false ∧ w = n) := fun hmarked => hF ((fits_name.mp h).mpr hmarked)
  rw [Expr.substitute_name, if_neg]
  simpa only [Bool.and_eq_true, Bool.not_eq_true', beq_iff_eq] using hunmarked

theorem substitute_self (l : Location) (n v : String) :
    (name l n).substitute n v false = .string l v := by
  rw [substitute_name, if_pos]
  simp

end

/-! ## Sameness -/

section

variable {F : Location → Prop} {n : String} (v : String) {a b : Expr} {bound bound' : Bool}

/-- A string that is put somewhere is the same as what it is put beside just if
the name was: at one place both are replaced. -/
theorem same_substitute_marked (ha : a.Fits F n bound) (hb : b.Fits F n bound')
    (h : F a.location ∨ F b.location) :
    (a.substitute n v bound).same (b.substitute n v bound') = a.same b := by
  by_cases hplace : a.location = b.location
  · have hboth : F a.location ∧ F b.location := by
      rw [hplace] at h ⊢
      exact ⟨or_self_iff.mp h, or_self_iff.mp h⟩
    obtain ⟨hname, rfl⟩ := ha.eq_name hboth.1
    obtain ⟨hname', rfl⟩ := hb.eq_name hboth.2
    rw [hname, hname', substitute_self, substitute_self]
    exact congrArg _ ((beq_self_eq_true v).trans (beq_self_eq_true n).symm)
  · rw [same_of_location_ne hplace, same_of_location_ne]
    rwa [location_substitute, location_substitute]

/-- A name, replaced or not, is no more the same as another node than before. -/
theorem same_substitute_name {m : Location} {x : String} (ha : a.Fits F n bound)
    (hb : (name m x).Fits F n bound') (hother : ∀ l w, a ≠ .name l w) :
    (a.substitute n v bound).same ((name m x).substitute n v bound') = a.same (.name m x) := by
  by_cases hm : F m
  · exact same_substitute_marked v ha hb (.inr hm)
  · rw [hb.substitute_name hm]
    cases a with
    | name l w => exact absurd rfl (hother l w)
    | _ => rfl

/-- Two pieces are the same source after the substitution just if they were
before. -/
theorem same_substitute (ha : a.Fits F n bound) (hb : b.Fits F n bound') :
    (a.substitute n v bound).same (b.substitute n v bound') = a.same b := by
  induction a using induction generalizing b bound bound' with
  | name l w =>
      by_cases h : F l ∨ F b.location
      · exact same_substitute_marked v ha hb h
      · obtain ⟨hl, hm⟩ := not_or.mp h
        rw [ha.substitute_name hl]
        cases b with
        | name m x => rw [hb.substitute_name hm]
        | _ => rfl
  | string l u =>
      cases b with
      | name m x => exact same_substitute_name v ha hb (by simp)
      | _ => rfl
  | integer l i =>
      cases b with
      | name m x => exact same_substitute_name v ha hb (by simp)
      | _ => rfl
  | float l y =>
      cases b with
      | name m x => exact same_substitute_name v ha hb (by simp)
      | _ => rfl
  | member l c w ih =>
      cases b with
      | member m d x =>
          rw [substitute, substitute, same, same, ih (fits_member.mp ha).2 (fits_member.mp hb).2]
      | name m x => exact same_substitute_name v ha hb (by simp)
      | _ => rfl
  | index l c k ihc ihk =>
      cases b with
      | index m d j =>
          obtain ⟨_, hc, hk⟩ := fits_index.mp ha
          obtain ⟨_, hd, hj⟩ := fits_index.mp hb
          rw [substitute, substitute, same, same, ihc hc hd, ihk hk hj]
      | name m x => exact same_substitute_name v ha hb (by simp)
      | _ => rfl
  | call l f es ihf ihes =>
      cases b with
      | call m g ds =>
          obtain ⟨_, hf, hes⟩ := fits_call.mp ha
          obtain ⟨_, hg, hds⟩ := fits_call.mp hb
          rw [substitute, substitute, same, same, ihf hf hg, substituteAll_eq, substituteAll_eq,
            sameAll_map fun e he d hd => ihes e he (hes e he) (hds d hd)]
      | name m x => exact same_substitute_name v ha hb (by simp)
      | _ => rfl
  | choice l c d e ihc ihd ihe =>
      cases b with
      | choice m c' d' e' =>
          obtain ⟨_, hc, hd, he⟩ := fits_choice.mp ha
          obtain ⟨_, hc', hd', he'⟩ := fits_choice.mp hb
          rw [substitute, substitute, same, same, ihc hc hc', ihd hd hd', ihe he he']
      | name m x => exact same_substitute_name v ha hb (by simp)
      | _ => rfl
  | list l es ih =>
      cases b with
      | list m ds =>
          rw [substitute, substitute, same, same, substituteAll_eq, substituteAll_eq,
            sameAll_map fun e he d hd =>
              ih e he ((fits_list.mp ha).2 e he) ((fits_list.mp hb).2 d hd)]
      | name m x => exact same_substitute_name v ha hb (by simp)
      | _ => rfl
  | dictionary l es ih =>
      cases b with
      | dictionary m ds =>
          rw [substitute, substitute, same, same, substituteEntries_eq, substituteEntries_eq,
            sameEntries_map fun p hp q hq => ?_]
          obtain ⟨hk, he⟩ := (fits_dictionary.mp ha).2 p hp
          obtain ⟨hj, hd⟩ := (fits_dictionary.mp hb).2 q hq
          exact ⟨(ih p hp).1 hk hj, (ih p hp).2 he hd⟩
      | name m x => exact same_substitute_name v ha hb (by simp)
      | _ => rfl
  | function l ps c ih =>
      cases b with
      | function m qs d =>
          rw [substitute, substitute, same, same,
            ih (fits_function.mp ha).2 (fits_function.mp hb).2]
      | name m x => exact same_substitute_name v ha hb (by simp)
      | _ => rfl

end

end Expr

/-! ## Templates -/

/-- The template with the string `v` put for the name `n`, but for the uses of
the name in functions that have it as a parameter. -/
def Template.substitute (n v : String) (t : Template) : Template :=
  ⟨Expr.substituteAll n v false t.children⟩

/-- The places where a string is put for a name. -/
def Template.Replaced (n : String) (t : Template) (l : Location) : Prop :=
  (l, true) ∈ Expr.marksAll n false t.children

/-- Of a template that is read, the places tell which nodes are replaced. -/
theorem parse_fits {stack : Reader.Stack} {text : String} {t : Template}
    (h : Template.parse stack text = .ok t) (n : String) :
    ∀ e ∈ t.children, e.Fits (t.Replaced n) n false := by
  have hnodup : ((Expr.marksAll n false t.children).map Prod.fst).Nodup := by
    have hplaces := parse_places h
    rw [Expr.placesAll_eq] at hplaces
    rwa [Expr.marksAll_eq, List.map_flatMap,
      List.flatMap_congr fun e _ => Expr.marks_places n false e]
  intro e he p hp
  have hmem : p ∈ Expr.marksAll n false t.children := by
    rw [Expr.marksAll_eq]
    exact List.mem_flatMap.mpr ⟨e, he, hp⟩
  -- two marks at one place are one mark
  constructor
  · intro hreplaced
    exact congrArg Prod.snd (List.inj_on_of_nodup_map hnodup hmem hreplaced rfl)
  · intro htrue
    obtain ⟨l, marked⟩ := p
    obtain rfl : marked = true := htrue
    exact hmem

end Inlay
