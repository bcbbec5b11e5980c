import Inlay.Proofs.Equality

/-!
# Keys are told apart by value and type

A dictionary tells two keys apart by their types and values, in lists element by
element, while the equality of templates looks at values alone: `1` and `1.0` are
equal and are two keys. What equality leaves out is the shape of a value, the name of
its type and in a list the shapes of the elements. A value that can be a key and holds
no not-a-number is the same key as just those that are equal to it and have its shape
(`sameKey_iff_equal`).
-/

namespace Inlay

/-- Lists are related by two relations at once just if their elements are. -/
theorem forall₂_iff_and {α β : Type} {R S T : α → β → Prop} {xs : List α} {ys : List β}
    (h : ∀ x ∈ xs, ∀ y, R x y ↔ S x y ∧ T x y) :
    List.Forall₂ R xs ys ↔ List.Forall₂ S xs ys ∧ List.Forall₂ T xs ys := by
  induction xs generalizing ys with
  | nil => cases ys <;> simp
  | cons x xs ih =>
      obtain ⟨hfirst, hrest⟩ := List.forall_mem_cons.mp h
      cases ys with
      | nil => simp
      | cons y ys =>
          rw [List.forall₂_cons, List.forall₂_cons, List.forall₂_cons, hfirst, ih hrest,
            and_and_and_comm]

/-- The type of a value, in a list with the types of all that it holds. -/
inductive Shape where
  | single (typeName : String)
  | list (elements : List Shape)

namespace Value

mutual

def shape : Value → Shape
  | list _ elements => .list (shapes elements)
  | v => .single v.typeName

def shapes : List Value → List Shape
  | [] => []
  | v :: rest => shape v :: shapes rest

end

variable {v w : Value}

theorem shapes_eq (vs : List Value) : shapes vs = vs.map shape := by
  induction vs with
  | nil => rfl
  | cons v vs ih => rw [shapes, ih, List.map_cons]

/-- Two lists have one shape if their elements have. -/
theorem shape_list {o p : Origin} {vs ws : List Value} :
    (list o vs).shape = (list p ws).shape ↔ List.Forall₂ (fun v w => v.shape = w.shape) vs ws := by
  rw [shape, shape, Shape.list.injEq, shapes_eq, shapes_eq, ← List.forall₂_eq_eq_eq,
    List.forall₂_map_left_iff, List.forall₂_map_right_iff]

/-- Only a list has the shape of one. -/
theorem isList_of_shape {o : Origin} {vs : List Value} (h : (list o vs).shape = w.shape) :
    ∃ p ws, w = .list p ws := by
  cases w with
  | list p ws => exact ⟨p, ws, rfl⟩
  | _ => cases h

/-- Numbers of one type are the same key just if they are equal. -/
theorem sameKey_number (hnumber : v.isNumber = true) (hv : v.NaNFree) :
    v.sameKey w = true ↔ v.equal w = true ∧ v.shape = w.shape := by
  rw [equal_number (.inl hnumber)]
  cases v with
  | integer n =>
      cases w <;>
        simp [sameKey, shape, typeName, Comparison.place?, Binary64.Position.ofInt_injective.eq_iff,
          @eq_comm _ n]
  | float x =>
      cases w <;>
        simp [sameKey, shape, typeName, Comparison.place?,
          Binary64.same_eq_equals (hv.number x rfl), Binary64.equals_iff]
  | _ => cases hnumber

theorem shape_of_sameKey (h : v.sameKey w = true) (hplain : v.isPlain = true) :
    v.shape = w.shape := by
  cases v with
  | foreign f =>
      cases w <;> try cases h
      rw [sameKey, beq_iff_eq] at h
      rw [h]
  | integer | float | list | dictionary => cases hplain
  | _ => cases w <;> first | rfl | cases h

/-- The equality of templates together with the shapes of values is sameness of keys. -/
theorem sameKey_iff_equal (hv : v.NaNFree) (hkey : v.keyFault? = none) :
    v.sameKey w = true ↔ v.equal w = true ∧ v.shape = w.shape := by
  induction v using Value.induction generalizing w with
  | integer | float => exact sameKey_number rfl hv
  | list o vs ih =>
      have hkeys := keyFault?_list.mp hkey
      have hfree : ∀ v ∈ vs, v.NaNFree := by
        cases hv with
        | list _ hvs => exact hvs
      by_cases hlist : ∃ p ws, w = .list p ws
      · obtain ⟨p, ws, rfl⟩ := hlist
        rw [sameKey_list, equal_list, pairwise_iff, shape_list]
        exact forall₂_iff_and fun v hmem w => ih v hmem (hfree v hmem) (hkeys v hmem)
      · refine iff_of_false (fun h => ?_) fun h => hlist (isList_of_shape h.2)
        cases w with
        | list p ws => exact hlist ⟨p, ws, rfl⟩
        | _ => cases h
  | dictionary => cases hkey
  | _ =>
      rw [equal_plain (.inl rfl)]
      exact (and_iff_left_of_imp fun h => shape_of_sameKey h rfl).symm

/-- Zeros of either sign are one key, and the integer zero is another, though equal. -/
theorem sameKey_iff_equal_zeros :
    let named : Value := .closure ["x"] (.name ⟨1, 9⟩ "x") []
    let pair (o : Origin) (zero : Value) : Value := .list o [zero, .list .template [named]]
    let v : Value := pair .template (.float (.zero false))
    v.NaNFree ∧ v.keyFault? = none ∧ v.sameKey (pair .host (.float (.zero true))) = true ∧
      v.equal (pair .host (.integer 0)) = true ∧ v.sameKey (pair .host (.integer 0)) = false := by
  intro named pair v
  have hv : v.NaNFree := by
    have hnamed : named.NaNFree := .closure _ (fun l x h => by simp [Expr.nodes] at h) _
    have hzero : NaNFree (.float (.zero false)) := .float rfl
    exact .list _ (by simp [hzero, hnamed, NaNFree.list])
  have hequal : ∀ zero : Value, (float (.zero false)).equal zero = true →
      v.equal (pair .host zero) = true := by
    intro zero hzero
    have hnamed : named.equal named = true := (equal_plain (.inl rfl)).trans (by decide)
    simp [v, pair, equal_list, pairwise, hzero, hnamed]
  have hplace : ∀ negative, Comparison.place? (.float (.zero negative)) = some (some (.at 0)) := by
    rintro (_ | _) <;> rfl
  have hinteger : Comparison.place? (.integer 0) = some (some (.at 0)) := by
    have hzero : Binary64.Position.ofInt 0 = .at 0 := congrArg _ (Int.zero_mul _)
    rw [Comparison.place?, hzero]
  have hfloats := hequal _ ((equal_number (.inl rfl)).mpr ⟨_, hplace false, hplace true⟩)
  have hmixed := hequal _ ((equal_number (.inl rfl)).mpr ⟨_, hplace false, hinteger⟩)
  exact ⟨hv, rfl, (sameKey_iff_equal hv rfl).mpr ⟨hfloats, rfl⟩, hmixed, rfl⟩

end Value

end Inlay
