import Inlay.Proofs.Likeness

/-!
# Keys in a host's own dictionaries

A lookup in a host's dictionary compares each of its keys twice: by the equality
of the host, and as keys of templates. A dictionary of templates only does the
second. What the two come to is compared here (`lookup_representations`).

They agree for every key that the host's dictionary could hold itself. The rest
are the lists that a host built, and the lists around them: to templates they are
the same keys as lists of their own, but to the host no key of a dictionary is
ever equal to one (`Value.hashable_of_hashEqual`), so a lookup there misses them
(`lookup_hostList`).
-/

namespace Inlay

namespace Value

/-! ## The two equalities of keys -/

theorem pairwise_iff {agree : Value → Value → Bool} {vs ws : List Value} :
    pairwise agree vs ws = true ↔ List.Forall₂ (fun v w => agree v w = true) vs ws := by
  induction vs generalizing ws with
  | nil => cases ws <;> simp [pairwise]
  | cons v vs ih => cases ws <;> simp [pairwise, ih]

theorem sameKey_list {o p : Origin} {vs ws : List Value} :
    (list o vs).sameKey (list p ws) = true ↔
      List.Forall₂ (fun v w => v.sameKey w = true) vs ws := by
  rw [sameKey, Likeness.sameKeys_eq, pairwise_iff]

theorem hashEqual_list {o p : Origin} {vs ws : List Value} :
    (list o vs).hashEqual (list p ws) = true ↔
      o = p ∧ List.Forall₂ (fun v w => v.hashEqual w = true) vs ws := by
  rw [hashEqual, Likeness.hashEqualAll_eq, Bool.and_eq_true, beq_iff_eq, pairwise_iff]

theorem keyFault?_list {o : Origin} {vs : List Value} :
    (list o vs).keyFault? = none ↔ ∀ v ∈ vs, v.keyFault? = none := by
  rw [keyFault?]
  exact Likeness.firstKeyFault?_eq_none

theorem hashFault?_list {vs : List Value} :
    (list .template vs).hashFault? = none ↔ ∀ v ∈ vs, v.hashFault? = none := by
  rw [hashFault?, Likeness.firstHashFault?_eq, List.findSome?_map]
  exact List.findSome?_eq_none_iff

/-- What a host's dictionary can hold as a key, a template's can. -/
theorem keyFault?_of_hashable {v : Value} (h : v.hashFault? = none) : v.keyFault? = none := by
  induction v using Value.induction with
  | list o vs ih =>
      cases o with
      | host => cases h
      | template =>
          have hall := hashFault?_list.mp h
          exact keyFault?_list.mpr fun v hv => ih v hv (hall v hv)
  | dictionary o es => cases o <;> cases h
  | foreign f => cases f <;> first | rfl | cases h
  | _ => rfl

/-- Only what a host's dictionary can hold is equal to one of its keys. -/
theorem hashable_of_hashEqual {v w : Value} (h : v.hashEqual w = true)
    (hv : v.hashFault? = none) : w.hashFault? = none := by
  induction v using Value.induction generalizing w with
  | list o vs ih =>
      cases o with
      | host => cases hv
      | template =>
          cases w with
          | list p ws =>
              obtain ⟨rfl, hall⟩ := hashEqual_list.mp h
              obtain ⟨hlength, hget⟩ := List.forall₂_iff_get.mp hall
              have hvs := hashFault?_list.mp hv
              refine hashFault?_list.mpr fun w hw => ?_
              obtain ⟨i, hi, rfl⟩ := List.getElem_of_mem hw
              have hi' : i < vs.length := by omega
              exact ih vs[i] (List.getElem_mem hi') (hget i hi' hi) (hvs _ (List.getElem_mem hi'))
          | _ => cases h
  | dictionary o es => cases o <;> cases hv
  | foreign f =>
      cases w with
      | foreign g =>
          rw [hashEqual, beq_iff_eq] at h
          exact h ▸ hv
      | _ => cases h
  | _ => cases w <;> first | rfl | cases h

/-- Among what a host's dictionary can hold, the same keys are equal. -/
theorem hashEqual_of_sameKey {v w : Value} (h : v.sameKey w = true) (hv : v.hashFault? = none)
    (hw : w.hashFault? = none) : v.hashEqual w = true := by
  induction v using Value.induction generalizing w with
  | list o vs ih =>
      cases w with
      | list p ws =>
          cases o with
          | host => cases hv
          | template =>
              cases p with
              | host => cases hw
              | template =>
                  obtain ⟨hlength, hget⟩ := List.forall₂_iff_get.mp (sameKey_list.mp h)
                  have hvs := hashFault?_list.mp hv
                  have hws := hashFault?_list.mp hw
                  refine hashEqual_list.mpr ⟨rfl, List.forall₂_iff_get.mpr ⟨hlength, ?_⟩⟩
                  intro i hi hi'
                  exact ih vs[i] (List.getElem_mem hi) (hget i hi hi')
                    (hvs _ (List.getElem_mem hi)) (hws _ (List.getElem_mem hi'))
      | _ => cases h
  | dictionary o es => cases o <;> cases hv
  | _ => cases w <;> first | exact h | cases h

/-- The equality of a host outside of containers is that inside of them, but for
not-a-numbers. -/
theorem looselyEqual_eq {v w : Value} (hw : ∀ x, w = .float x → x.isNaN = false) :
    v.looselyEqual w = v.hashEqual w := by
  cases v with
  | float x =>
      cases w with
      | float y =>
          have hy := hw y rfl
          cases y with
          | nan q => cases hy
          | infinite negative => cases x <;> rfl
          | finite negative significand place h => cases x <;> rfl
      | _ => rfl
  | _ => rfl

end Value

namespace Dictionary

/-! ## A host's dictionary -/

/-- The entries of a host's dictionary: its keys can be held by one, and they are
pairwise different to the host. -/
structure Hosted (es : Entries) : Prop where
  hashable : ∀ p ∈ es, p.1.hashFault? = none
  differ : es.Pairwise fun p q => p.1.hashEqual q.1 = false

theorem Hosted.singleton {key value : Value} (h : key.hashFault? = none) :
    Hosted [(key, value)] where
  hashable p hp := by obtain rfl := List.mem_singleton.mp hp; exact h
  differ := List.pairwise_singleton _ _

/-- Keys that differ to the host differ to templates. -/
theorem Hosted.sameKey_differ {es : Entries} (h : Hosted es) :
    es.Pairwise fun p q => p.1.sameKey q.1 = false := by
  refine h.differ.imp_of_mem fun {p q} hp hq hne => ?_
  cases hsame : p.1.sameKey q.1 with
  | false => rfl
  | true =>
      have hequal := Value.hashEqual_of_sameKey hsame (h.hashable p hp) (h.hashable q hq)
      rw [hne] at hequal
      cases hequal

theorem put_of_absent {same : Value → Value → Bool} {key value : Value} {es : Entries}
    (h : ∀ p ∈ es, same p.1 key = false) : put same key value es = es ++ [(key, value)] := by
  induction es with
  | nil => rfl
  | cons p es ih =>
      obtain ⟨k, v⟩ := p
      obtain ⟨hfirst, hrest⟩ := List.forall_mem_cons.mp h
      have hne : same k key = false := hfirst
      rw [put, hne, ih hrest]
      rfl

/-- Entries with pairwise different keys are all kept, in their order. -/
theorem putAll_of_differ {same : Value → Value → Bool} {es : Entries}
    (h : es.Pairwise fun p q => same p.1 q.1 = false) : putAll same es = es := by
  have hfold : ∀ ds : Entries, (ds ++ es).Pairwise (fun p q => same p.1 q.1 = false) →
      es.foldl (fun d (p : Value × Value) => put same p.1 p.2 d) ds = ds ++ es := by
    clear h
    induction es with
    | nil => exact fun ds _ => (List.append_nil ds).symm
    | cons p es ih =>
        intro ds h
        have habsent : ∀ q ∈ ds, same q.1 p.1 = false := fun q hq =>
          (List.pairwise_append.mp h).2.2 q hq p (by simp)
        rw [List.foldl_cons, put_of_absent habsent, ih _ (by simpa using h), List.append_assoc]
        rfl
  exact hfold [] h

/-- A host's dictionary can be had as one of templates, entry by entry. -/
theorem Hosted.ofEntries_eq {es : Entries} (h : Hosted es) : ofEntries es = .ok es := by
  have hkeys : Value.firstKeyFault? (es.map Prod.fst) = none :=
    Likeness.firstKeyFault?_eq_none.mpr (List.forall_mem_map.mpr fun p hp =>
      Value.keyFault?_of_hashable (h.hashable p hp))
  rw [ofEntries, hkeys, putAll_of_differ h.sameKey_differ]

/-! ## Lookups -/

section

variable {es : Entries} (hes : Hosted es) {key : Value}
  (hnumber : ∀ x, key = .float x → x.isNaN = false)
include hes hnumber

/-- A key that a host's dictionary can hold is found just where it is the same
key. -/
theorem hostFound?_of_hashable (hkey : key.hashFault? = none) :
    hostFound? es key = found? es key := by
  have hsame : ∀ p ∈ es, (p.1.looselyEqual key && p.1.sameKey key) = p.1.sameKey key := by
    intro p hp
    rw [Value.looselyEqual_eq hnumber]
    cases hsame : p.1.sameKey key with
    | false => exact Bool.and_false _
    | true => rw [Value.hashEqual_of_sameKey hsame (hes.hashable p hp) hkey]; rfl
  unfold hostFound? found?
  rw [← List.head?_filter, ← List.head?_filter, List.filter_congr hsame]

/-- A key that a host's dictionary cannot hold is not found. -/
theorem hostFound?_of_unhashable (hkey : key.hashFault? ≠ none) : hostFound? es key = none := by
  refine List.find?_eq_none.mpr fun p hp hfound => hkey ?_
  rw [Bool.and_eq_true, Value.looselyEqual_eq hnumber] at hfound
  exact Value.hashable_of_hashEqual hfound.1 (hes.hashable p hp)

end

end Dictionary

open Dictionary in
/-- A lookup in a host's dictionary beside one in the dictionary of its entries:
what is no key of templates is refused with the same fault by both, and a key
that the host's dictionary could hold has the same outcome in both. Any other
key holds a list of the host and is never found in the host's dictionary. -/
theorem lookup_representations {es : Entries} (hes : Hosted es) {key : Value}
    (hnumber : ∀ x, key = .float x → x.isNaN = false) :
    ∃ d, ofEntries es = .ok d ∧
      lookup .host es key =
        if key.keyFault? = none ∧ key.hashFault? ≠ none then .ok none
        else lookup .template d key := by
  refine ⟨es, hes.ofEntries_eq, ?_⟩
  unfold lookup
  cases hfault : key.keyFault? with
  | some fault => simp
  | none =>
      by_cases hkey : key.hashFault? = none
      · simp [hkey, hostFound?_of_hashable hes hnumber hkey, get?]
      · simp [hkey, hostFound?_of_unhashable hes hnumber hkey]

open Dictionary in
theorem lookup_representations_tuple :
    Hosted [(.list .template [.integer 1], .string "x")] ∧
      (∀ x, Value.list .template [.integer 1] = .float x → x.isNaN = false) ∧
      ∃ d, ofEntries [(.list .template [.integer 1], .string "x")] = .ok d ∧
        lookup .host [(.list .template [.integer 1], .string "x")]
            (.list .template [.integer 1]) =
          lookup .template d (.list .template [.integer 1]) := by
  have hosted : Hosted [(.list .template [.integer 1], .string "x")] := .singleton rfl
  have hnumber : ∀ x, Value.list .template [.integer 1] = .float x → x.isNaN = false := by
    intro x hx
    cases hx
  refine ⟨hosted, hnumber, ?_⟩
  obtain ⟨d, hd, hlookup⟩ := lookup_representations hosted hnumber
  have hkey : (Value.list .template [.integer 1]).hashFault? = none := rfl
  rw [if_neg fun h => h.2 hkey] at hlookup
  exact ⟨d, hd, hlookup⟩

open Dictionary in
/-- A list that a host built is the same key as one of a template, yet the host's
dictionary does not find it. -/
theorem lookup_hostList :
    Hosted [(.list .template [.integer 1], .string "x")] ∧
      lookup .host [(.list .template [.integer 1], .string "x")] (.list .host [.integer 1]) =
        .ok none ∧
      (ofEntries [(.list .template [.integer 1], .string "x")]).bind
          (lookup .template · (.list .host [.integer 1])) = .ok (some (.string "x")) := by
  exact ⟨.singleton rfl, rfl, rfl⟩

end Inlay
