import Inlay.Proofs.HostKeys
import Inlay.Proofs.WellFormedValues

/-!
# Sameness of keys is an equivalence

Two keys are the same by type and value, lists element by element whoever built
them, closures by the piece of source that they come from. This is symmetric and
transitive on all values (`Value.sameKey_comm`, `Value.sameKey_trans`), and what
can be a key is the same key as itself unless a literal of a closure is
not-a-number (`Value.sameKey_self`).

With that, an entry of a dictionary whose keys differ is settled by its key
(`Dictionary.found?_eq_some_iff`).
-/

namespace Inlay

/-- Related lists compose if their members do. -/
theorem forall₂_trans {α : Type} {R : α → α → Prop} {xs ys zs : List α}
    (h : ∀ x ∈ xs, ∀ y ∈ ys, ∀ z ∈ zs, R x y → R y z → R x z) (hxy : List.Forall₂ R xs ys)
    (hyz : List.Forall₂ R ys zs) : List.Forall₂ R xs zs := by
  induction hxy generalizing zs with
  | nil =>
      cases hyz
      exact .nil
  | @cons x y xs ys hxy _ ih =>
      cases hyz with
      | @cons _ z _ zs hyz hrest =>
          refine .cons ?_ (ih (fun x' hx' y' hy' z' hz' => ?_) hrest)
          · exact h x List.mem_cons_self y List.mem_cons_self z List.mem_cons_self hxy hyz
          · exact h x' (List.mem_cons_of_mem _ hx') y' (List.mem_cons_of_mem _ hy') z'
              (List.mem_cons_of_mem _ hz')

namespace Binary64

/-- Equal numbers stand at one place on the line. -/
theorem equals_iff {x y : Binary64} :
    x.equals y = true ↔ ∃ p, x.position? = some p ∧ y.position? = some p := by
  unfold equals
  cases x.position? <;> cases y.position? <;> simp [eq_comm]

theorem equals_trans {x y z : Binary64} (h : x.equals y = true) (h' : y.equals z = true) :
    x.equals z = true := by
  obtain ⟨p, hx, hy⟩ := equals_iff.mp h
  obtain ⟨q, hy', hz⟩ := equals_iff.mp h'
  obtain rfl : p = q := Option.some.inj (hy.symm.trans hy')
  exact equals_iff.mpr ⟨p, hx, hz⟩

/-- What is a number has a place on the line. -/
theorem exists_position {x : Binary64} (h : x.isNaN = false) : ∃ p, x.position? = some p := by
  cases x with
  | nan payload => cases h
  | infinite negative => exact ⟨_, rfl⟩
  | finite negative significand place fits => exact ⟨_, rfl⟩

theorem equals_self {x : Binary64} (h : x.isNaN = false) : x.equals x = true := by
  obtain ⟨p, hp⟩ := exists_position h
  exact equals_iff.mpr ⟨p, hp, hp⟩

theorem same_eq_equals {x : Binary64} (h : x.isNaN = false) (y : Binary64) :
    x.same y = x.equals y := by
  cases x with
  | nan payload => cases h
  | _ => rfl

theorem same_self (x : Binary64) : x.same x = true := by
  by_cases hx : x.isNaN = false
  · rw [same_eq_equals hx, equals_self hx]
  · cases x with
    | nan payload => exact decide_eq_true rfl
    | _ => exact absurd rfl hx

theorem same_trans {x y z : Binary64} (h : x.same y = true) (h' : y.same z = true) :
    x.same z = true := by
  cases x with
  | nan p =>
      cases y with
      | nan q =>
          obtain rfl : p = q := of_decide_eq_true h
          exact h'
      | _ => cases h
  | _ =>
      -- equal to a number, so a number
      have hy : y.isNaN = false := by cases y <;> first | rfl | cases h
      rw [same_eq_equals rfl] at h ⊢
      rw [same_eq_equals hy] at h'
      exact equals_trans h h'

theorem Position.ofInt_injective : Function.Injective Position.ofInt := by
  intro m n h
  have hunits : m * (unitsPerOne : Int) = n * unitsPerOne := Position.at.inj h
  have hpos : (unitsPerOne : Int) ≠ 0 := by
    have hunit : 0 < unitsPerOne := by
      unfold unitsPerOne
      generalize 1074 = exponent
      exact Nat.pow_pos Nat.two_pos
    omega
  exact Int.eq_of_mul_eq_mul_right hpos hunits

end Binary64

/-! ## Pieces of source -/

namespace Expr

/-- A tree none of whose literals is not-a-number. -/
def NaNFree (e : Expr) : Prop := ∀ l x, float l x ∈ e.nodes → x.isNaN = false

/-- No literal of a tree that is read is not-a-number. -/
theorem WellFormed.naNFree {e : Expr} (h : e.WellFormed) : e.NaNFree := by
  intro l x hmem
  have hfinite : Expr.WellFormed (.float l x) := h.nodes _ hmem
  cases hfinite with
  | float hx => cases x <;> first | rfl | cases hx

theorem NaNFree.mono {d e : Expr} (h : e.NaNFree) (hsub : d.nodes ⊆ e.nodes) : d.NaNFree :=
  fun l x hmem => h l x (hsub hmem)

theorem sameAll_iff {es fs : List Expr} :
    sameAll es fs = true ↔ List.Forall₂ (fun e f => e.same f = true) es fs := by
  induction es generalizing fs with
  | nil => cases fs <;> simp [sameAll]
  | cons e es ih => cases fs <;> simp [sameAll, ih]

theorem sameEntries_iff {es fs : List (Expr × Expr)} :
    sameEntries es fs = true ↔
      List.Forall₂ (fun p q => p.1.same q.1 = true ∧ p.2.same q.2 = true) es fs := by
  induction es generalizing fs with
  | nil => cases fs <;> simp [sameEntries]
  | cons p es ih => cases fs <;> simp [sameEntries, ih, and_assoc]

theorem same_self {e : Expr} (h : e.NaNFree) : e.same e = true := by
  induction e using Expr.induction with
  | string | integer | name => simp [same]
  | float l x => simp [same, Binary64.equals_self (h l x (self_mem_nodes _))]
  | member l b w ih => simp [same, ih (h.mono (by simp [nodes]))]
  | index l b k ihb ihk =>
      simp [same, ihb (h.mono (by simp [nodes])), ihk (h.mono (by simp [nodes]))]
  | call l f es ihf ihes =>
      have hes : sameAll es es = true := by
        refine sameAll_iff.mpr (List.forall₂_same.mpr fun e he => ihes e he (h.mono ?_))
        exact fun d hd => by simp [nodes, subset_nodesAll he hd]
      simp [same, hes, ihf (h.mono (by simp [nodes]))]
  | choice l c a b ihc iha ihb =>
      simp [same, ihc (h.mono (by simp [nodes])),
        iha (h.mono fun d hd => by simp [nodes, hd]), ihb (h.mono fun d hd => by simp [nodes, hd])]
  | list l es ih =>
      have hes : sameAll es es = true := by
        refine sameAll_iff.mpr (List.forall₂_same.mpr fun e he => ih e he (h.mono ?_))
        exact fun d hd => by simp [nodes, subset_nodesAll he hd]
      simp [same, hes]
  | dictionary l es ih =>
      have hes : sameEntries es es = true := by
        refine sameEntries_iff.mpr (List.forall₂_same.mpr fun p hp => ?_)
        obtain ⟨hkey, hvalue⟩ := subset_nodesEntries hp
        exact ⟨(ih p hp).1 (h.mono fun d hd => by simp [nodes, hkey hd]),
          (ih p hp).2 (h.mono fun d hd => by simp [nodes, hvalue hd])⟩
      simp [same, hes]
  | function l ps b ih => simp [same, ih (h.mono (by simp [nodes]))]

theorem same_trans {e f g : Expr} (h : e.same f = true) (h' : f.same g = true) :
    e.same g = true := by
  induction e using Expr.induction generalizing f g with
  | string l v | integer l n | name l w =>
      cases f <;> try cases h
      cases g <;> try cases h'
      simp only [same, Bool.and_eq_true, beq_iff_eq] at h h' ⊢
      exact ⟨h.1.trans h'.1, h.2.trans h'.2⟩
  | float l x =>
      cases f <;> try cases h
      cases g <;> try cases h'
      simp only [same, Bool.and_eq_true, beq_iff_eq] at h h' ⊢
      exact ⟨h.1.trans h'.1, Binary64.equals_trans h.2 h'.2⟩
  | member l b w ih =>
      cases f <;> try cases h
      cases g <;> try cases h'
      simp only [same, Bool.and_eq_true, beq_iff_eq] at h h' ⊢
      exact ⟨⟨h.1.1.trans h'.1.1, ih h.1.2 h'.1.2⟩, h.2.trans h'.2⟩
  | index l b k ihb ihk =>
      cases f <;> try cases h
      cases g <;> try cases h'
      simp only [same, Bool.and_eq_true, beq_iff_eq] at h h' ⊢
      exact ⟨⟨h.1.1.trans h'.1.1, ihb h.1.2 h'.1.2⟩, ihk h.2 h'.2⟩
  | call l c es ihc ihes =>
      cases f <;> try cases h
      cases g <;> try cases h'
      simp only [same, Bool.and_eq_true, beq_iff_eq, sameAll_iff] at h h' ⊢
      exact ⟨⟨h.1.1.trans h'.1.1, ihc h.1.2 h'.1.2⟩,
        forall₂_trans (fun e he _ _ _ _ => ihes e he) h.2 h'.2⟩
  | choice l c a b ihc iha ihb =>
      cases f <;> try cases h
      cases g <;> try cases h'
      simp only [same, Bool.and_eq_true, beq_iff_eq] at h h' ⊢
      exact ⟨⟨⟨h.1.1.1.trans h'.1.1.1, ihc h.1.1.2 h'.1.1.2⟩, iha h.1.2 h'.1.2⟩, ihb h.2 h'.2⟩
  | list l es ih =>
      cases f <;> try cases h
      cases g <;> try cases h'
      simp only [same, Bool.and_eq_true, beq_iff_eq, sameAll_iff] at h h' ⊢
      exact ⟨h.1.trans h'.1, forall₂_trans (fun e he _ _ _ _ => ih e he) h.2 h'.2⟩
  | dictionary l es ih =>
      cases f <;> try cases h
      cases g <;> try cases h'
      simp only [same, Bool.and_eq_true, beq_iff_eq, sameEntries_iff] at h h' ⊢
      refine ⟨h.1.trans h'.1, forall₂_trans (fun p hp q _ r _ hpq hqr => ?_) h.2 h'.2⟩
      exact ⟨(ih p hp).1 hpq.1 hqr.1, (ih p hp).2 hpq.2 hqr.2⟩
  | function l ps b ih =>
      cases f <;> try cases h
      cases g <;> try cases h'
      simp only [same, Bool.and_eq_true, beq_iff_eq] at h h' ⊢
      exact ⟨⟨h.1.1.trans h'.1.1, h.1.2.trans h'.1.2⟩, ih h.2 h'.2⟩

end Expr

/-! ## Keys -/

namespace Value

/-- A value of templates in which nothing is not-a-number, down to the literals of
its closures. What a closure captured does not count. -/
inductive NaNFree : Value → Prop
  | integer (n : Int) : NaNFree (.integer n)
  | float {x : Binary64} (h : x.isNaN = false) : NaNFree (.float x)
  | string (s : String) : NaNFree (.string s)
  | boolean (b : Bool) : NaNFree (.boolean b)
  | list (o : Origin) {vs : List Value} (h : ∀ v ∈ vs, NaNFree v) : NaNFree (.list o vs)
  | dictionary (o : Origin) {es : List (Value × Value)} (hkeys : ∀ p ∈ es, NaNFree p.1)
      (hvalues : ∀ p ∈ es, NaNFree p.2) : NaNFree (.dictionary o es)
  | closure (ps : List String) {b : Expr} (h : b.NaNFree) (frames : List Frame) :
      NaNFree (.closure ps b frames)
  | builtin (f : Function) : NaNFree (.builtin f)

theorem NaNFree.number {v : Value} (h : v.NaNFree) : ∀ x, v = .float x → x.isNaN = false := by
  rintro x rfl
  cases h with
  | float hx => exact hx

/-- What can be a key is the same key as itself. -/
theorem sameKey_self {v : Value} (h : v.NaNFree) (hkey : v.keyFault? = none) :
    v.sameKey v = true := by
  induction v using Value.induction with
  | list o vs ih =>
      have hkeys := keyFault?_list.mp hkey
      cases h with
      | list _ hvs =>
          exact sameKey_list.mpr (List.forall₂_same.mpr fun v hv => ih v hv (hvs v hv) (hkeys v hv))
  | float x => exact Binary64.same_self x
  | dictionary o es => cases hkey
  | closure ps b frames =>
      cases h with
      | closure _ hb => simp [sameKey, Expr.same_self hb]
  | _ => simp [sameKey]

theorem sameKey_trans {u v w : Value} (h : u.sameKey v = true) (h' : v.sameKey w = true) :
    u.sameKey w = true := by
  induction u using Value.induction generalizing v w with
  | list o us ih =>
      cases v <;> try cases h
      cases w <;> try cases h'
      rw [sameKey_list] at h h' ⊢
      exact forall₂_trans (fun u hu _ _ _ _ => ih u hu) h h'
  | dictionary => cases h
  | closure ps b frames =>
      cases v <;> try cases h
      cases w <;> try cases h'
      simp only [sameKey, Bool.and_eq_true, beq_iff_eq] at h h' ⊢
      exact ⟨h.1.trans h'.1, Expr.same_trans h.2 h'.2⟩
  | float x =>
      cases v <;> try cases h
      cases w <;> try cases h'
      exact Binary64.same_trans h h'
  | _ =>
      cases v <;> try cases h
      cases w <;> try cases h'
      simp only [sameKey, beq_iff_eq] at h h' ⊢
      exact h.trans h'

end Value

/-! ## Lookups -/

namespace Dictionary

variable {es : Entries} {key : Value}

theorem sameKey_of_found? {p : Value × Value} (h : found? es key = some p) :
    p.1.sameKey key = true := by
  have hsome := List.find?_some (p := fun (q : Value × Value) => q.1.sameKey key) (l := es) h
  exact hsome

/-- Where keys are pairwise different, an entry is settled by its key. -/
theorem eq_of_sameKey (hdiffer : es.Pairwise fun p q => p.1.sameKey q.1 = false)
    {p q : Value × Value} (hp : p ∈ es) (hq : q ∈ es) (h : p.1.sameKey q.1 = true) : p = q := by
  by_contra hne
  have hsymm : Std.Symm fun p q : Value × Value => p.1.sameKey q.1 = false :=
    ⟨fun p q hpq => (Value.sameKey_comm q.1 p.1).trans hpq⟩
  rw [hdiffer.forall hp hq hne] at h
  cases h

/-- An entry is found just where its key is, as no other entry has it. -/
theorem found?_eq_some_iff (hdiffer : es.Pairwise fun p q => p.1.sameKey q.1 = false)
    {p : Value × Value} : found? es key = some p ↔ p ∈ es ∧ p.1.sameKey key = true := by
  constructor
  · intro h
    exact ⟨List.mem_of_find?_eq_some h, sameKey_of_found? h⟩
  · rintro ⟨hp, hsame⟩
    cases hfound : found? es key with
    | none => exact absurd hsame (List.find?_eq_none.mp hfound p hp)
    | some q =>
        have hqp : q.1.sameKey p.1 = true :=
          Value.sameKey_trans (sameKey_of_found? hfound)
            ((Value.sameKey_comm key p.1).trans hsame)
        rw [eq_of_sameKey hdiffer (List.mem_of_find?_eq_some hfound) hp hqp]

end Dictionary

end Inlay
