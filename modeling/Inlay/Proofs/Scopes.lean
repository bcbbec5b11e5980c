import Inlay.Proofs.Likeness
import Inlay.Property

/-!
# What names mean in a scope

The last binding of a name in a list of bindings is the one that its frame
keeps (`Frame.get?_ofBindings`), and a new frame is asked before the frames
around it (`Scope.lookup_child`). Two scopes mean the same to a relation of
values if every name is bound to related values in both or in neither.
-/

namespace Inlay

namespace Frame

theorem get?_cons (n : String) (v : Value) (frame : Frame) (x : String) :
    get? ((n, v) :: frame) x = if x = n then some v else frame.get? x := by
  unfold get?
  rw [List.lookup_cons]
  by_cases hx : x = n
  · rw [if_pos hx, beq_iff_eq.mpr hx]
  · rw [if_neg hx, beq_false_of_ne hx]

theorem get?_bind (frame : Frame) (name : String) (value : Value) (x : String) :
    (frame.bind name value).get? x = if x = name then some value else frame.get? x := by
  induction frame with
  | nil => exact get?_cons name value [] x
  | cons p rest ih =>
      obtain ⟨n, v⟩ := p
      rw [bind, get?_cons]
      by_cases h : n = name
      · subst h
        rw [if_pos rfl, get?_cons]
        by_cases hx : x = n
        · rw [if_pos hx, if_pos hx]
        · rw [if_neg hx, if_neg hx, if_neg hx]
      · rw [if_neg h, get?_cons, ih]
        by_cases hx : x = n
        · rw [if_pos hx, if_neg (hx ▸ h), if_pos hx]
        · rw [if_neg hx, if_neg hx]

/-- A frame binds every name as the last of its bindings does. -/
theorem get?_ofBindings (bindings : List (String × Value)) (x : String) :
    (ofBindings bindings).get? x = bindings.reverse.lookup x := by
  have hfold : ∀ frame : Frame,
      get? (bindings.foldl (fun frame p => frame.bind p.1 p.2) frame) x =
        (bindings.reverse.lookup x).or (frame.get? x) := by
    induction bindings with
    | nil => intro frame; rfl
    | cons p rest ih =>
        intro frame
        obtain ⟨n, v⟩ := p
        rw [List.foldl_cons, ih, get?_bind, List.reverse_cons, List.lookup_append,
          Option.or_assoc]
        congr 1
        change _ = (get? [(n, v)] x).or _
        rw [get?_cons]
        split <;> rfl
  exact (hfold []).trans Option.or_none

end Frame

namespace Scope

theorem lookup_child (scope : Scope) (bindings : List (String × Value)) (x : String) :
    (scope.child bindings).lookup x = (bindings.reverse.lookup x).or (scope.lookup x) := by
  unfold lookup child
  rw [List.findSome?_cons, Frame.get?_ofBindings]
  cases bindings.reverse.lookup x <;> rfl

theorem lookup_root (bindings : List (String × Value)) (x : String) :
    (root bindings).lookup x = bindings.reverse.lookup x := by
  unfold lookup root
  rw [List.findSome?_singleton, Frame.get?_ofBindings]

/-- Parameters leave the other names as they are. -/
theorem lookup_child_of_notMem (scope : Scope) {ps : List String} {x : String} (h : x ∉ ps)
    (vs : List Value) : (scope.child (ps.zip vs)).lookup x = scope.lookup x := by
  have hnone : (ps.zip vs).reverse.lookup x = none := by
    refine List.lookup_eq_none_iff.mpr fun p hp => ?_
    refine bne_iff_ne.mpr ?_
    rintro rfl
    exact h (List.of_mem_zip (List.mem_reverse.mp hp)).1
  rw [lookup_child, hnone, Option.none_or]

/-- Among properties the last one of a name is what the name means. -/
theorem lookup_ofProperties {before after : List Property} {n : String}
    (h : ∀ p ∈ after, p.name ≠ n) (v : String) :
    (ofProperties (before ++ ⟨n, v⟩ :: after)).lookup n = some (.string v) := by
  have hnone : (after.map fun p => (p.name, Value.string p.value)).reverse.lookup n = none := by
    refine List.lookup_eq_none_iff.mpr fun q hq => ?_
    obtain ⟨p, hp, rfl⟩ := List.mem_map.mp (List.mem_reverse.mp hq)
    exact bne_iff_ne.mpr (h p hp).symm
  rw [ofProperties, lookup_root, List.map_append, List.map_cons, List.reverse_append,
    List.reverse_cons, List.lookup_append, List.lookup_append, hnone, List.lookup_cons_self]
  rfl

/-- A name that no property has means nothing. -/
theorem lookup_ofProperties_eq_none {properties : List Property} {x : String} :
    (ofProperties properties).lookup x = none ↔ ∀ p ∈ properties, p.name ≠ x := by
  rw [ofProperties, lookup_root, List.lookup_eq_none_iff]
  simp only [List.mem_reverse, List.mem_map, bne_iff_ne]
  constructor
  · exact fun h p hp hx => h _ ⟨p, hp, rfl⟩ hx.symm
  · rintro h _ ⟨p, hp, rfl⟩ hx
    exact h p hp hx.symm

/-! ## Scopes that mean the same -/

/-- Every name means related values in both scopes or nothing in either. -/
def Means (R : Value → Value → Prop) (s s' : Scope) : Prop :=
  ∀ x : String, Option.Rel R (s.lookup x) (s'.lookup x)

/-- The same names bound to related values. -/
inductive BindingRel (R : Value → Value → Prop) : String × Value → String × Value → Prop
  | mk (x : String) {v w : Value} (h : R v w) : BindingRel R (x, v) (x, w)

theorem zip_forall₂ {R : Value → Value → Prop} {vs ws : List Value} (ps : List String)
    (h : List.Forall₂ R vs ws) : List.Forall₂ (BindingRel R) (ps.zip vs) (ps.zip ws) := by
  induction h generalizing ps with
  | nil => simp
  | cons hvw _ ih =>
      cases ps with
      | nil => exact .nil
      | cons p ps => exact .cons (.mk p hvw) (ih ps)

theorem lookup_forall₂ {R : Value → Value → Prop} {bs cs : List (String × Value)}
    (h : List.Forall₂ (BindingRel R) bs cs) (x : String) :
    Option.Rel R (bs.lookup x) (cs.lookup x) := by
  induction h with
  | nil => exact .none
  | cons hbc _ ih =>
      cases hbc with
      | mk y hvw =>
          rw [List.lookup_cons, List.lookup_cons]
          split
          · exact .some hvw
          · exact ih

/-- A name means related values inside new frames of related bindings if it does
outside. -/
theorem rel_lookup_child {R : Value → Value → Prop} {s s' : Scope} {x : String}
    (h : Option.Rel R (s.lookup x) (s'.lookup x)) {bs cs : List (String × Value)}
    (hbs : List.Forall₂ (BindingRel R) bs cs) :
    Option.Rel R ((s.child bs).lookup x) ((s'.child cs).lookup x) := by
  have hfound := lookup_forall₂ (List.rel_reverse hbs) x
  rw [lookup_child, lookup_child]
  generalize bs.reverse.lookup x = found at hfound ⊢
  generalize cs.reverse.lookup x = found' at hfound ⊢
  cases hfound with
  | none => exact h
  | some hvw => exact .some hvw

/-- New frames of related bindings keep two scopes meaning the same. -/
theorem Means.child {R : Value → Value → Prop} {s s' : Scope} (h : Means R s s')
    {bs cs : List (String × Value)} (hbs : List.Forall₂ (BindingRel R) bs cs) :
    Means R (s.child bs) (s'.child cs) :=
  fun x => rel_lookup_child (h x) hbs

/-- Properties mean themselves, whatever else the relation says. -/
theorem means_ofProperties {R : Value → Value → Prop} (hstring : ∀ s, R (.string s) (.string s))
    (properties : List Property) :
    Means R (ofProperties properties) (ofProperties properties) := by
  intro x
  rw [ofProperties, lookup_root]
  refine lookup_forall₂ (List.rel_reverse (List.forall₂_same.mpr fun b hb => ?_)) x
  obtain ⟨p, _, rfl⟩ := List.mem_map.mp hb
  exact .mk _ (hstring _)

end Scope

end Inlay
