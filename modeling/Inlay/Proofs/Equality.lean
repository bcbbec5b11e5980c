import Mathlib.Data.List.MinMax
import Inlay.Library.Comparison
import Inlay.Proofs.KeySameness

/-!
# Equality is an equivalence

Templates compare values structurally: lists place by place, dictionaries by
looking each key of the left one up in the right one, numbers by their exact
values. The comparison of dictionaries is lopsided, as it never looks at the keys
of the right one; it is symmetric all the same, since two dictionaries of one
length whose keys differ pairwise cannot miss each other's keys on one side only
(`exists_of_covers`).

The law holds of values in which nothing is not-a-number and the dictionaries are
what they can be (`Value.Comparable`). The one thing kept out besides is a key
that holds a list of a host, which no dictionary of a host finds.
-/

namespace Inlay

namespace Value

/-! ## Values that can be compared -/

/-- A value that is a list of a host or, through lists, holds one. -/
inductive HoldsHostList : Value → Prop
  | itself (vs : List Value) : HoldsHostList (.list .host vs)
  | element (o : Origin) {vs : List Value} {v : Value} (hv : v ∈ vs) (h : HoldsHostList v) :
      HoldsHostList (.list o vs)

/-- Every dictionary in the value could have been built: the keys of one that a
template built differ pairwise and hold no dictionaries, and one of a host is
`Dictionary.Hosted`. No key is or holds a list of a host; in a dictionary of a host
none can. -/
inductive Keyed : Value → Prop
  | single {v : Value} (hlist : v.isList = false) (hdictionary : v.isDictionary = false) : Keyed v
  | list (o : Origin) {vs : List Value} (h : ∀ v ∈ vs, Keyed v) : Keyed (.list o vs)
  | template {es : List (Value × Value)} (hkeys : ∀ p ∈ es, p.1.keyFault? = none)
      (hlists : ∀ p ∈ es, ¬ p.1.HoldsHostList)
      (hdiffer : es.Pairwise fun p q => p.1.sameKey q.1 = false)
      (hvalues : ∀ p ∈ es, Keyed p.2) : Keyed (.dictionary .template es)
  | host {es : List (Value × Value)} (hes : Dictionary.Hosted es)
      (hvalues : ∀ p ∈ es, Keyed p.2) : Keyed (.dictionary .host es)

/-- A value that equality is made for. -/
structure Comparable (v : Value) : Prop where
  naNFree : v.NaNFree
  keyed : v.Keyed

/-- What can be a key and holds no list of a host, a host's dictionary can hold. -/
theorem hashFault?_of_keyFault? {v : Value} (hkey : v.keyFault? = none)
    (hlist : ¬ v.HoldsHostList) : v.hashFault? = none := by
  induction v using Value.induction with
  | list o vs ih =>
      cases o with
      | host => exact absurd (.itself vs) hlist
      | template =>
          have hkeys := keyFault?_list.mp hkey
          exact hashFault?_list.mpr fun v hv =>
            ih v hv (hkeys v hv) fun h => hlist (.element _ hv h)
  | dictionary o es => cases hkey
  | foreign f => cases f <;> first | rfl | cases hkey
  | _ => rfl

theorem Keyed.elements {o : Origin} {vs : List Value} (h : Keyed (.list o vs)) :
    ∀ v ∈ vs, v.Keyed := by
  cases h with
  | list _ h => exact h
  | single hlist _ => cases hlist

section

variable {o : Origin} {es : List (Value × Value)} (h : Keyed (.dictionary o es))
include h

theorem Keyed.values : ∀ p ∈ es, p.2.Keyed := by
  cases h with
  | template _ _ _ hvalues => exact hvalues
  | host _ hvalues => exact hvalues
  | single _ hdictionary => cases hdictionary

theorem Keyed.differ : es.Pairwise fun p q => p.1.sameKey q.1 = false := by
  cases h with
  | template _ _ hdiffer _ => exact hdiffer
  | host hes _ => exact hes.sameKey_differ
  | single _ hdictionary => cases hdictionary

theorem Keyed.hashable : ∀ p ∈ es, p.1.hashFault? = none := by
  cases h with
  | template hkeys hlists _ _ =>
      intro p hp
      exact hashFault?_of_keyFault? (hkeys p hp) (hlists p hp)
  | host hes _ => exact hes.hashable
  | single _ hdictionary => cases hdictionary

/-- In a dictionary of either representation, a key that a host's could hold is
found by its sameness alone. -/
theorem Keyed.lookup {key : Value} (hkey : key.hashFault? = none)
    (hnumber : ∀ x, key = .float x → x.isNaN = false) :
    Dictionary.lookup o es key = .ok (Dictionary.get? es key) := by
  have hfault : key.keyFault? = none := keyFault?_of_hashable hkey
  unfold Dictionary.lookup Dictionary.get?
  rw [hfault]
  cases h with
  | template => rfl
  | host hes _ => rw [← Dictionary.hostFound?_of_hashable hes hnumber hkey]
  | single _ hdictionary => cases hdictionary

end

/-- What a template builds of entries with such keys and values is such a value. -/
theorem Keyed.ofEntries {es d : List (Value × Value)} (h : Dictionary.ofEntries es = .ok d)
    (hes : ∀ p ∈ es, ¬ p.1.HoldsHostList ∧ p.2.Keyed) : Keyed (.dictionary .template d) := by
  unfold Dictionary.ofEntries at h
  split at h
  · cases h
  · rename_i hfirst
    cases h
    have hkeys : ∀ p ∈ es, p.1.keyFault? = none :=
      List.forall_mem_map.mp (Likeness.firstKeyFault?_eq_none.mp hfirst)
    obtain ⟨hall, hdiffer⟩ := Dictionary.putAll_spec
      (K := fun k => k.keyFault? = none ∧ ¬ k.HoldsHostList) (V := Keyed)
      fun p hp => ⟨⟨hkeys p hp, (hes p hp).1⟩, (hes p hp).2⟩
    exact .template (fun p hp => (hall p hp).1.1) (fun p hp => (hall p hp).1.2)
      (hdiffer.imp fun hpq => hpq.1) fun p hp => (hall p hp).2

/-! ## How deep a comparison looks -/

theorem depth_lt_of_mem {o : Origin} {vs : List Value} {v : Value} (hv : v ∈ vs) :
    v.depth < (list o vs).depth := by
  rw [depth, Likeness.depthAll_eq, Nat.lt_succ_iff]
  exact List.le_max_of_le' 0 (List.mem_map_of_mem hv) le_rfl

theorem depth_lt_of_mem_entries {o : Origin} {es : List (Value × Value)} {p : Value × Value}
    (hp : p ∈ es) : p.2.depth < (dictionary o es).depth := by
  rw [depth, Likeness.depthEntries_eq, Nat.lt_succ_iff]
  exact List.le_max_of_le' 0 (List.mem_map_of_mem (f := fun p => max p.1.depth p.2.depth) hp)
    (le_max_right _ _)

theorem pairwise_congr {f g : Value → Value → Bool} {vs ws : List Value}
    (h : ∀ v ∈ vs, ∀ w ∈ ws, f v w = g v w) : pairwise f vs ws = pairwise g vs ws := by
  induction vs generalizing ws with
  | nil => cases ws <;> rfl
  | cons v vs ih =>
      cases ws with
      | nil => rfl
      | cons w ws =>
          have hfirst : f v w = g v w := h v List.mem_cons_self w List.mem_cons_self
          have hrest : pairwise f vs ws = pairwise g vs ws := ih fun v' hv' w' hw' =>
            h v' (List.mem_cons_of_mem _ hv') w' (List.mem_cons_of_mem _ hw')
          rw [pairwise, pairwise, hfirst, hrest]

/-- What one entry of the left dictionary is compared with, by a test `agree`. -/
def entryAgrees (agree : Value → Value → Bool) (o : Origin) (ys : List (Value × Value))
    (p : Value × Value) : Bool :=
  match Dictionary.lookup o ys p.1 with
  | .ok (some found) => agree found p.2
  | _ => false

theorem entryAgrees_congr {f g : Value → Value → Bool} {o : Origin} {ys : List (Value × Value)}
    {p : Value × Value} (h : ∀ q ∈ ys, f q.2 p.2 = g q.2 p.2) :
    entryAgrees f o ys p = entryAgrees g o ys p := by
  unfold entryAgrees
  split
  · rename_i found hfound
    obtain ⟨q, hq, rfl⟩ := Dictionary.mem_of_lookup hfound
    exact h q hq
  · rfl

theorem equalWithin_dictionary {n : Nat} {o p : Origin} {xs ys : List (Value × Value)} :
    equalWithin (n + 1) (dictionary o xs) (dictionary p ys) = true ↔
      xs.length = ys.length ∧ ∀ x ∈ xs, entryAgrees (equalWithin n) p ys x = true := by
  rw [equalWithin, Bool.and_eq_true, beq_iff_eq, List.all_eq_true]
  rfl

/-- Comparing deeper than either side nests makes no difference. -/
theorem equalWithin_stable {n m : Nat} {v w : Value} (hn : v.depth ≤ n ∨ w.depth ≤ n)
    (hm : v.depth ≤ m ∨ w.depth ≤ m) : equalWithin n v w = equalWithin m v w := by
  induction n generalizing m v w with
  | zero =>
      -- one of the two is neither a list nor a dictionary
      cases v <;> cases w <;> first | rfl | (cases m <;> rfl) | simp [depth] at hn
  | succ n ih =>
      cases m with
      | zero => cases v <;> cases w <;> first | rfl | simp [depth] at hm
      | succ m =>
          cases v <;> cases w <;> try rfl
          case list.list o vs p ws =>
            rw [equalWithin, equalWithin]
            refine pairwise_congr fun v hv w hw => ?_
            have hvs := depth_lt_of_mem (o := o) hv
            have hws := depth_lt_of_mem (o := p) hw
            exact ih (by omega) (by omega)
          case dictionary.dictionary o xs p ys =>
            rw [Bool.eq_iff_iff, equalWithin_dictionary, equalWithin_dictionary]
            refine and_congr_right fun _ => forall₂_congr fun x hx => ?_
            rw [entryAgrees_congr fun y hy => ?_]
            have hxs := depth_lt_of_mem_entries (o := o) hx
            have hys := depth_lt_of_mem_entries (o := p) hy
            exact ih (by omega) (by omega)

theorem equal_eq {n : Nat} {v w : Value} (h : v.depth ≤ n ∨ w.depth ≤ n) :
    v.equal w = equalWithin n v w := equalWithin_stable (.inl le_rfl) h

/-! ## What equality says -/

/-- Lists are equal place by place. -/
theorem equal_list {o p : Origin} {vs ws : List Value} :
    (list o vs).equal (list p ws) = pairwise equal vs ws := by
  rw [equal, depth, equalWithin]
  refine pairwise_congr fun v hv w _ => ?_
  have hdepth := depth_lt_of_mem (o := o) hv
  rw [depth] at hdepth
  exact (equal_eq (.inl (by omega))).symm

/-- Dictionaries are equal if they have as many entries and each of the left one
has its counterpart on the right. -/
theorem equal_dictionary {o p : Origin} {xs ys : List (Value × Value)}
    (hxs : Keyed (.dictionary o xs)) (hys : Keyed (.dictionary p ys))
    (hkeys : ∀ x ∈ xs, x.1.NaNFree) :
    (dictionary o xs).equal (dictionary p ys) = true ↔
      xs.length = ys.length ∧
        ∀ x ∈ xs, ∃ y ∈ ys, y.1.sameKey x.1 = true ∧ y.2.equal x.2 = true := by
  rw [equal, depth, equalWithin_dictionary]
  refine and_congr_right fun _ => forall₂_congr fun x hx => ?_
  have hdepth := depth_lt_of_mem_entries (o := o) hx
  rw [depth] at hdepth
  rw [entryAgrees_congr fun y _ => (equal_eq (.inr (by omega))).symm]
  unfold entryAgrees
  rw [hys.lookup (hxs.hashable x hx) (hkeys x hx).number, Dictionary.get?]
  constructor
  · intro h
    cases hfound : Dictionary.found? ys x.1 with
    | none => simp [hfound] at h
    | some y =>
        rw [hfound] at h
        obtain ⟨hy, hsame⟩ := (Dictionary.found?_eq_some_iff hys.differ).mp hfound
        exact ⟨y, hy, hsame, h⟩
  · rintro ⟨y, hy, hsame, hequal⟩
    rw [(Dictionary.found?_eq_some_iff hys.differ).mpr ⟨hy, hsame⟩]
    exact hequal

/-- Numbers are compared by their exact values. -/
theorem equal_number {v w : Value} (h : v.isNumber = true ∨ w.isNumber = true) :
    v.equal w = true ↔
      ∃ p, Comparison.place? v = some (some p) ∧ Comparison.place? w = some (some p) := by
  have hshallow : v.depth ≤ 0 ∨ w.depth ≤ 0 := by
    refine h.imp (fun h => ?_) fun h => ?_
    · cases v <;> first | exact le_rfl | cases h
    · cases w <;> first | exact le_rfl | cases h
  rw [equal_eq hshallow]
  have hintegers : ∀ a b : Int, Binary64.Position.ofInt b = Binary64.Position.ofInt a ↔ a = b :=
    fun a b => Binary64.Position.ofInt_injective.eq_iff.trans eq_comm
  cases v <;> cases w <;> try (simp [isNumber] at h; done)
  all_goals
    simp [equalWithin, looselyEqual, hashEqual, integerEqualsFloat, Comparison.place?,
      Binary64.equals_iff, hintegers]

/-- Neither a number nor a list nor a dictionary. -/
def isPlain : Value → Bool
  | string _ => true
  | boolean _ => true
  | closure _ _ _ => true
  | builtin _ => true
  | foreign _ => true
  | _ => false

/-- All else is compared as keys are. -/
theorem equal_plain {v w : Value} (h : v.isPlain = true ∨ w.isPlain = true) :
    v.equal w = v.sameKey w := by
  have hwithin (n : Nat) : equalWithin n v w = v.sameKey w := by
    cases n <;> cases v <;> cases w <;> first | rfl | simp [isPlain] at h
  exact hwithin v.depth

/-! ## Counting -/

end Value

/-- If each member of one list has a counterpart in another which is no longer, and
no two have the same, then each member of the other one is a counterpart. -/
theorem exists_of_covers {α β : Type} {R : α → β → Prop} {xs : List α} {ys : List β}
    (hapart : xs.Pairwise fun x x' => ∀ y, R x y → ¬ R x' y) (hlength : ys.length ≤ xs.length)
    (hcovers : ∀ x ∈ xs, ∃ y ∈ ys, R x y) : ∀ y ∈ ys, ∃ x ∈ xs, R x y := by
  induction xs generalizing ys with
  | nil =>
      intro y hy
      rw [List.length_nil, Nat.le_zero, List.length_eq_zero_iff] at hlength
      subst hlength
      cases hy
  | cons x xs ih =>
      obtain ⟨hfirst, hrest⟩ := List.pairwise_cons.mp hapart
      obtain ⟨⟨y, hy, hxy⟩, hcovers⟩ := List.forall_mem_cons.mp hcovers
      obtain ⟨before, after, rfl⟩ := List.append_of_mem hy
      -- the others have their counterparts among the rest
      have hothers : ∀ x' ∈ xs, ∃ y' ∈ before ++ after, R x' y' := by
        intro x' hx'
        obtain ⟨y', hy', hrel⟩ := hcovers x' hx'
        rcases List.mem_append.mp hy' with hbefore | hafter
        · exact ⟨y', List.mem_append_left _ hbefore, hrel⟩
        · rcases List.mem_cons.mp hafter with rfl | hafter
          · exact absurd hrel (hfirst x' hx' y' hxy)
          · exact ⟨y', List.mem_append_right _ hafter, hrel⟩
      have hshorter : (before ++ after).length ≤ xs.length := by
        simp only [List.length_append, List.length_cons] at hlength ⊢
        omega
      have hrests := ih hrest hshorter hothers
      intro z hz
      by_cases hzin : z ∈ before ++ after
      · obtain ⟨x', hx', hrel⟩ := hrests z hzin
        exact ⟨x', List.mem_cons_of_mem _ hx', hrel⟩
      · have hzy : z = y := by
          simp only [List.mem_append, List.mem_cons, not_or] at hz hzin
          tauto
        exact ⟨x, List.mem_cons_self, hzy ▸ hxy⟩

namespace Value

/-! ## The laws -/

theorem Comparable.elements {o : Origin} {vs : List Value} (h : Comparable (.list o vs)) :
    ∀ v ∈ vs, v.Comparable := by
  intro v hv
  cases h.naNFree with
  | list _ hvs => exact ⟨hvs v hv, h.keyed.elements v hv⟩

theorem Comparable.keys {o : Origin} {es : List (Value × Value)}
    (h : Comparable (.dictionary o es)) : ∀ p ∈ es, p.1.NaNFree := by
  cases h.naNFree with
  | dictionary _ hkeys _ => exact hkeys

theorem Comparable.values {o : Origin} {es : List (Value × Value)}
    (h : Comparable (.dictionary o es)) : ∀ p ∈ es, p.2.Comparable := by
  intro p hp
  cases h.naNFree with
  | dictionary _ _ hvalues => exact ⟨hvalues p hp, h.keyed.values p hp⟩

theorem equal_self {v : Value} (h : v.Comparable) : v.equal v = true := by
  induction v using Value.induction with
  | integer n => exact (equal_number (.inl rfl)).mpr ⟨_, rfl, rfl⟩
  | float x =>
      obtain ⟨p, hp⟩ := Binary64.exists_position (h.naNFree.number x rfl)
      exact (equal_number (.inl rfl)).mpr ⟨p, congrArg some hp, congrArg some hp⟩
  | list o vs ih =>
      rw [equal_list, pairwise_iff, List.forall₂_same]
      exact fun v hv => ih v hv (h.elements v hv)
  | dictionary o es ih =>
      rw [equal_dictionary h.keyed h.keyed h.keys]
      refine ⟨rfl, fun p hp => ⟨p, hp, ?_, (ih p hp).2 (h.values p hp)⟩⟩
      exact sameKey_self (h.keys p hp) (keyFault?_of_hashable (h.keyed.hashable p hp))
  | foreign f => cases h.naNFree
  | _ => rw [equal_plain (.inl rfl), sameKey_self h.naNFree rfl]

theorem equal_comm_number {v w : Value} (h : v.isNumber = true ∨ w.isNumber = true) :
    v.equal w = w.equal v := by
  rw [Bool.eq_iff_iff, equal_number h, equal_number h.symm]
  simp only [and_comm]

theorem equal_comm_plain {v w : Value} (h : v.isPlain = true ∨ w.isPlain = true) :
    v.equal w = w.equal v := by
  rw [equal_plain h, equal_plain h.symm, sameKey_comm]

/-- The counterparts of the entries on the left are all entries on the right. -/
theorem equal_dictionary_symm {o p : Origin} {xs ys : List (Value × Value)}
    (hx : Comparable (.dictionary o xs)) (hy : Comparable (.dictionary p ys))
    (hcomm : ∀ x ∈ xs, ∀ y ∈ ys, x.2.equal y.2 = y.2.equal x.2)
    (h : (dictionary o xs).equal (dictionary p ys) = true) :
    (dictionary p ys).equal (dictionary o xs) = true := by
  obtain ⟨hlength, hcovers⟩ := (equal_dictionary hx.keyed hy.keyed hx.keys).mp h
  have hapart : xs.Pairwise fun x x' =>
      ∀ y : Value × Value, y.1.sameKey x.1 = true ∧ y.2.equal x.2 = true →
        ¬ (y.1.sameKey x'.1 = true ∧ y.2.equal x'.2 = true) := by
    refine hx.keyed.differ.imp fun {x x'} hne y hxy hxy' => ?_
    have hsame : x.1.sameKey x'.1 = true :=
      sameKey_trans ((sameKey_comm x.1 y.1).trans hxy.1) hxy'.1
    rw [hne] at hsame
    cases hsame
  refine (equal_dictionary hy.keyed hx.keyed hy.keys).mpr ⟨hlength.symm, fun y hmem => ?_⟩
  obtain ⟨x, hmem', hsame, hequal⟩ := exists_of_covers hapart hlength.ge hcovers y hmem
  exact ⟨x, hmem', (sameKey_comm x.1 y.1).trans hsame, (hcomm x hmem' y hmem).trans hequal⟩

theorem equal_comm {v w : Value} (hv : v.Comparable) (hw : w.Comparable) :
    v.equal w = w.equal v := by
  induction v using Value.induction generalizing w with
  | integer | float => exact equal_comm_number (.inl rfl)
  | list o vs ih =>
      cases w with
      | integer | float => exact equal_comm_number (.inr rfl)
      | list p ws =>
          rw [equal_list, equal_list]
          exact pairwise_comm fun v hmem w hmem' =>
            ih v hmem (hv.elements v hmem) (hw.elements w hmem')
      | dictionary => rfl
      | _ => exact equal_comm_plain (.inr rfl)
  | dictionary o xs ih =>
      cases w with
      | integer | float => exact equal_comm_number (.inr rfl)
      | list => rfl
      | dictionary p ys =>
          have hcomm : ∀ x ∈ xs, ∀ y ∈ ys, x.2.equal y.2 = y.2.equal x.2 := fun x hx y hy =>
            (ih x hx).2 (hv.values x hx) (hw.values y hy)
          rw [Bool.eq_iff_iff]
          constructor
          · exact equal_dictionary_symm hv hw hcomm
          · exact equal_dictionary_symm hw hv fun y hy x hx => (hcomm x hx y hy).symm
      | _ => exact equal_comm_plain (.inr rfl)
  | _ => exact equal_comm_plain (.inl rfl)

theorem isNumber_of_place? {v : Value} {p : Option Binary64.Position}
    (h : Comparison.place? v = some p) : v.isNumber = true := by
  cases v <;> first | rfl | cases h

/-- Only a list equals a list. -/
theorem isList_of_equal {o : Origin} {vs : List Value} {w : Value}
    (h : (list o vs).equal w = true) : ∃ p ws, w = .list p ws := by
  cases w with
  | list p ws => exact ⟨p, ws, rfl⟩
  | dictionary => cases h
  | integer | float =>
      obtain ⟨p, hp, -⟩ := (equal_number (.inr rfl)).mp h
      cases hp
  | _ =>
      rw [equal_plain (.inr rfl)] at h
      cases h

/-- Only a dictionary equals a dictionary. -/
theorem isDictionary_of_equal {o : Origin} {es : List (Value × Value)} {w : Value}
    (h : (dictionary o es).equal w = true) : ∃ p fs, w = .dictionary p fs := by
  cases w with
  | dictionary p fs => exact ⟨p, fs, rfl⟩
  | list => cases h
  | integer | float =>
      obtain ⟨p, hp, -⟩ := (equal_number (.inr rfl)).mp h
      cases hp
  | _ =>
      rw [equal_plain (.inr rfl)] at h
      cases h

/-- What is compared as a key equals only such values. -/
theorem isPlain_of_sameKey {v w : Value} (h : v.sameKey w = true) (hv : v.isPlain = true) :
    w.isPlain = true := by
  cases v <;> cases w <;> first | rfl | cases h | cases hv

theorem equal_trans {u v w : Value} (hu : u.Comparable) (hv : v.Comparable)
    (hw : w.Comparable) (h : u.equal v = true) (h' : v.equal w = true) : u.equal w = true := by
  have hnumber : ∀ {u v w : Value}, u.isNumber = true → u.equal v = true → v.equal w = true →
      u.equal w = true := by
    intro u v w hu h h'
    obtain ⟨p, hup, hvp⟩ := (equal_number (.inl hu)).mp h
    obtain ⟨q, hvq, hwq⟩ := (equal_number (.inl (isNumber_of_place? hvp))).mp h'
    obtain rfl : p = q := Option.some.inj (Option.some.inj (hvp.symm.trans hvq))
    exact (equal_number (.inl hu)).mpr ⟨p, hup, hwq⟩
  have hplain : ∀ {u v w : Value}, u.isPlain = true → u.equal v = true → v.equal w = true →
      u.equal w = true := by
    intro u v w hu h h'
    rw [equal_plain (.inl hu)] at h ⊢
    rw [equal_plain (.inl (isPlain_of_sameKey h hu))] at h'
    exact sameKey_trans h h'
  induction u using Value.induction generalizing v w with
  | integer | float => exact hnumber rfl h h'
  | list o us ih =>
      obtain ⟨p, vs, rfl⟩ := isList_of_equal h
      obtain ⟨q, ws, rfl⟩ := isList_of_equal h'
      rw [equal_list, pairwise_iff] at h h' ⊢
      exact forall₂_trans (fun x hx y hy z hz =>
        ih x hx (hu.elements x hx) (hv.elements y hy) (hw.elements z hz)) h h'
  | dictionary o es ih =>
      obtain ⟨p, fs, rfl⟩ := isDictionary_of_equal h
      obtain ⟨q, gs, rfl⟩ := isDictionary_of_equal h'
      obtain ⟨hlength, hfirst⟩ := (equal_dictionary hu.keyed hv.keyed hu.keys).mp h
      obtain ⟨hlength', hsecond⟩ := (equal_dictionary hv.keyed hw.keyed hv.keys).mp h'
      refine (equal_dictionary hu.keyed hw.keyed hu.keys).mpr
        ⟨hlength.trans hlength', fun x hx => ?_⟩
      obtain ⟨y, hy, hkey, hvalue⟩ := hfirst x hx
      obtain ⟨z, hz, hkey', hvalue'⟩ := hsecond y hy
      have hxv := hu.values x hx
      have hyv := hv.values y hy
      have hzv := hw.values z hz
      -- the values stand the other way round in a lookup
      rw [equal_comm hyv hxv] at hvalue
      rw [equal_comm hzv hyv] at hvalue'
      refine ⟨z, hz, sameKey_trans hkey' hkey, ?_⟩
      rw [equal_comm hzv hxv]
      exact (ih x hx).2 hxv hyv hzv hvalue hvalue'
  | _ => exact hplain rfl h h'

/-! ## No comparison fails -/

/-- Equality with the faults of its lookups, as deep as `bound`: a key that is none
ends the comparison of dictionaries, where `equalWithin` takes it for missing. -/
def tryEqualWithin : (bound : Nat) → Value → Value → Except KeyFault Bool
  | _, boolean a, boolean b => .ok (a == b)
  | _, boolean _, _ => .ok false
  | _, _, boolean _ => .ok false
  | bound + 1, list _ xs, list _ ys =>
    if xs.length = ys.length then pairwiseOk (tryEqualWithin bound) xs ys else .ok false
  | bound + 1, dictionary _ xs, dictionary p ys =>
    if xs.length = ys.length then
      allOk (fun (key, value) =>
        match Dictionary.lookup p ys key with
        | .ok (some found) => tryEqualWithin bound found value
        | .ok none => .ok false
        | .error fault => .error fault) xs
    else .ok false
  | _, v, w => .ok (v.looselyEqual w)

/-- Equality with the faults of its lookups. -/
def tryEqual (a b : Value) : Except KeyFault Bool := tryEqualWithin a.depth a b

theorem length_of_pairwise {f : Value → Value → Bool} {vs ws : List Value}
    (h : pairwise f vs ws = true) : vs.length = ws.length :=
  (pairwise_iff.mp h).length_eq

theorem pairwiseOk_eq {f : Value → Value → Except KeyFault Bool} {g : Value → Value → Bool}
    {vs ws : List Value} (h : ∀ v ∈ vs, ∀ w ∈ ws, f v w = .ok (g v w)) :
    pairwiseOk f vs ws = .ok (pairwise g vs ws) := by
  induction vs generalizing ws with
  | nil => cases ws <;> rfl
  | cons v vs ih =>
      cases ws with
      | nil => rfl
      | cons w ws =>
          have hfirst : f v w = .ok (g v w) := h v List.mem_cons_self w List.mem_cons_self
          have hrest : pairwiseOk f vs ws = .ok (pairwise g vs ws) := ih fun v' hv' w' hw' =>
            h v' (List.mem_cons_of_mem _ hv') w' (List.mem_cons_of_mem _ hw')
          rw [pairwiseOk, pairwise, hfirst, hrest]
          cases g v w <;> rfl

theorem allOk_eq {α : Type} {f : α → Except KeyFault Bool} {g : α → Bool} {as : List α}
    (h : ∀ a ∈ as, f a = .ok (g a)) : allOk f as = .ok (as.all g) := by
  induction as with
  | nil => rfl
  | cons a as ih =>
      obtain ⟨hfirst, hrest⟩ := List.forall_mem_cons.mp h
      rw [allOk, hfirst, ih hrest, List.all_cons]
      cases g a <;> rfl

theorem tryEqualWithin_eq (n : Nat) {v w : Value} (hv : v.Comparable) (hw : w.Comparable) :
    tryEqualWithin n v w = .ok (equalWithin n v w) := by
  induction n generalizing v w with
  | zero => cases v <;> cases w <;> rfl
  | succ n ih =>
      cases v <;> cases w <;> try rfl
      case list.list o vs p ws =>
        have hagree := pairwiseOk_eq (f := tryEqualWithin n) (g := equalWithin n)
          fun v hmem w hmem' => ih (hv.elements v hmem) (hw.elements w hmem')
        rw [tryEqualWithin, equalWithin, hagree]
        split_ifs with hlength
        · rfl
        · rw [Bool.eq_false_iff.mpr fun h => hlength (length_of_pairwise h)]
      case dictionary.dictionary o xs p ys =>
        rw [tryEqualWithin, equalWithin]
        split_ifs with hlength
        · rw [beq_iff_eq.mpr hlength, Bool.true_and]
          refine allOk_eq fun x hx => ?_
          have hlookup := hw.keyed.lookup (hv.keyed.hashable x hx) (hv.keys x hx).number
          cases hfound : Dictionary.get? ys x.1 with
          | none => simp only [hlookup, hfound]
          | some found =>
              simp only [hlookup, hfound]
              obtain ⟨y, hy, rfl⟩ := Dictionary.mem_of_get? hfound
              exact ih (hw.values y hy) (hv.values x hx)
        · rw [beq_eq_false_iff_ne.mpr hlength, Bool.false_and]

/-- Equality is an equivalence: it has a verdict on any two values that it is made
for, and is reflexive, symmetric and transitive on them, whoever built the lists
and dictionaries. -/
theorem equal_equivalence {u v w : Value} (hu : u.Comparable) (hv : v.Comparable)
    (hw : w.Comparable) :
    v.tryEqual w = .ok (v.equal w) ∧ Comparison.eq v w = .ok (.boolean (v.equal w)) ∧
      v.equal v = true ∧ (v.equal w = true → w.equal v = true) ∧
      (u.equal v = true → v.equal w = true → u.equal w = true) :=
  ⟨tryEqualWithin_eq _ hv hw, rfl, equal_self hv, fun h => (equal_comm hw hv).trans h,
    equal_trans hu hv hw⟩

/-- Two dictionaries of a host with one of a template between them: the entries stand
in another order, lists are of either representation, and the zeros have different
signs. -/
theorem equal_equivalence_mixed :
    let pair (o : Origin) (negative : Bool) : Value :=
      .list o [.integer 1, .float (.zero negative)]
    let two : Value := .list .template [.integer 2]
    let u : Value := .dictionary .host [(.string "a", pair .host true), (two, .boolean true)]
    let v : Value :=
      .dictionary .template [(two, .boolean true), (.string "a", pair .template false)]
    let w : Value := .dictionary .host [(.string "a", pair .template true), (two, .boolean true)]
    u.Comparable ∧ v.Comparable ∧ w.Comparable ∧ v.tryEqual w = .ok true ∧
      v.equal v = true ∧ w.equal v = true ∧ u.equal w = true := by
  intro pair two u v w
  have hpair : ∀ o negative, Comparable (pair o negative) := by
    intro o negative
    have hzero : (Binary64.zero negative).isNaN = false := rfl
    refine ⟨.list o ?_, .list o ?_⟩
    · simp [NaNFree.integer, NaNFree.float hzero]
    · rintro _ (_ | ⟨_, _ | ⟨_, ⟨⟩⟩⟩) <;> exact .single rfl rfl
  have htrue : Comparable (.boolean true) := ⟨.boolean true, .single rfl rfl⟩
  have hkeys : NaNFree (.string "a") ∧ NaNFree two := by
    refine ⟨.string "a", .list .template ?_⟩
    simp [NaNFree.integer]
  have hhost : ∀ value : Value, value.Comparable →
      Comparable (.dictionary .host [(.string "a", value), (two, .boolean true)]) := by
    intro value h
    have hosted : Dictionary.Hosted [(.string "a", value), (two, .boolean true)] :=
      ⟨by simp [hashFault?, firstHashFault?, two], List.pairwise_pair.mpr rfl⟩
    refine ⟨.dictionary .host ?_ ?_, .host hosted ?_⟩
    · simp [hkeys]
    · simp [h.naNFree, htrue.naNFree]
    · simp [h.keyed, htrue.keyed]
  have hv : v.Comparable := by
    have hbuilt : Dictionary.ofEntries [(two, .boolean true), (.string "a", pair .template false)] =
        .ok [(two, .boolean true), (.string "a", pair .template false)] := rfl
    have htwo : ¬ HoldsHostList (.list .template [.integer 2]) := by
      rintro (_ | ⟨_, hmem, h⟩)
      cases List.mem_singleton.mp hmem
      cases h
    refine ⟨.dictionary .template ?_ ?_, .ofEntries hbuilt ?_⟩
    · simp [hkeys]
    · simp [htrue.naNFree, (hpair .template false).naNFree]
    · have hname : ¬ HoldsHostList (.string "a") := by rintro ⟨⟩
      simp [two, htwo, hname, htrue.keyed, (hpair .template false).keyed]
  have hu : u.Comparable := hhost _ (hpair .host true)
  have hw : w.Comparable := hhost _ (hpair .template true)
  have huv : u.equal v = true := by decide
  have hvw : v.equal w = true := by decide
  obtain ⟨hok, -, hself, hsymm, htrans⟩ := equal_equivalence hu hv hw
  exact ⟨hu, hv, hw, hok.trans (congrArg _ hvw), hself, hsymm hvw, htrans huv hvw⟩

end Value

end Inlay
