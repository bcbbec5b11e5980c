import Inlay.Proofs.EntryLists
import Inlay.Proofs.Equality

/-!
# A host's comparison of dictionaries

A host compares two dictionaries of templates by the types and values of their
keys, but one of templates with one of its own by its own equality of keys, for
which `1`, `1.0` and `true` are one key. So a dictionary is compared with a host's
in another way than with the dictionary of templates that has the same entries
(`hostEqual_crossType`).

The two comparisons come to the same as long as the keys that the host takes for
equal are of one type (`TypedApart`), and what is equal by types is always equal to
the host. Both rest on one lemma about entries that the two equalities of keys do
not tell apart (`hostEqualWithin_representations`); it can be used in the second
case as keys that are the same are equal to the same keys of a host
(`Value.hashEqual_congr`).
-/

namespace Inlay

/-! ## A host's equality of keys -/

namespace Binary64

theorem position?_of_same {x y : Binary64} (h : x.same y = true) : x.position? = y.position? := by
  by_cases hx : x.isNaN = false
  · rw [same_eq_equals hx] at h
    obtain ⟨p, hp, hq⟩ := equals_iff.mp h
    rw [hp, hq]
  · cases x with
    | nan p => cases y <;> first | rfl | cases h
    | _ => exact absurd rfl hx

theorem same_congr {x y : Binary64} (h : x.same y = true) (z : Binary64) :
    x.same z = y.same z := by
  rw [Bool.eq_iff_iff]
  exact ⟨same_trans ((same_comm y x).trans h), same_trans h⟩

end Binary64

theorem Expr.same_congr {d e : Expr} (h : d.same e = true) (f : Expr) :
    d.same f = e.same f := by
  rw [Bool.eq_iff_iff]
  exact ⟨same_trans ((same_comm e d).trans h), same_trans h⟩

namespace Value

theorem hashEqual_comm (v w : Value) : v.hashEqual w = w.hashEqual v := by
  induction v using Value.induction generalizing w with
  | list o vs ih =>
      cases w with
      | list p ws =>
          rw [hashEqual, hashEqual, Likeness.hashEqualAll_eq, Likeness.hashEqualAll_eq,
            pairwise_comm fun v hv w _ => ih v hv w, BEq.comm]
      | _ => rfl
  | float x => cases w <;> first | rfl | simp only [hashEqual, Binary64.same_comm x]
  | closure ps b frames =>
      cases w <;> first | rfl | simp only [hashEqual, Expr.same_comm b, BEq.comm]
  | _ => cases w <;> first | rfl | simp only [hashEqual, BEq.comm]

theorem pairwise_congr_left {R : Value → Value → Prop} {f : Value → Value → Bool}
    {us vs : List Value} (hrel : List.Forall₂ R us vs)
    (h : ∀ u ∈ us, ∀ v ∈ vs, R u v → ∀ w, f u w = f v w) (ws : List Value) :
    pairwise f us ws = pairwise f vs ws := by
  induction hrel generalizing ws with
  | nil => rfl
  | @cons u v us vs huv _ ih =>
      cases ws with
      | nil => rfl
      | cons w ws =>
          have hfirst : f u w = f v w := h u List.mem_cons_self v List.mem_cons_self huv w
          have hrest : pairwise f us ws = pairwise f vs ws :=
            ih (fun u' hu' v' hv' => h u' (List.mem_cons_of_mem _ hu') v'
              (List.mem_cons_of_mem _ hv')) ws
          rw [pairwise, pairwise, hfirst, hrest]

/-- Keys that are the same are equal to the same keys of a host. -/
theorem hashEqual_congr {u v : Value} (h : u.sameKey v = true) (hu : u.hashFault? = none)
    (hv : v.hashFault? = none) (w : Value) : u.hashEqual w = v.hashEqual w := by
  induction u using Value.induction generalizing v w with
  | list o us ih =>
      cases v <;> try cases h
      case list p vs =>
        cases o with
        | host => cases hu
        | template =>
            cases p with
            | host => cases hv
            | template =>
                have hus := hashFault?_list.mp hu
                have hvs := hashFault?_list.mp hv
                cases w with
                | list q ws =>
                    rw [hashEqual, hashEqual, Likeness.hashEqualAll_eq, Likeness.hashEqualAll_eq,
                      pairwise_congr_left (sameKey_list.mp h) fun u hu v hv huv w =>
                        ih u hu huv (hus u hu) (hvs v hv) w]
                | _ => rfl
  | float x =>
      cases v <;> try cases h
      cases w <;> try rfl
      all_goals
        simp only [hashEqual, integerEqualsFloat, Binary64.position?_of_same h,
          Binary64.same_congr h]
  | dictionary o es => cases o <;> cases hu
  | closure ps b frames =>
      cases v <;> try cases h
      rw [sameKey, Bool.and_eq_true, beq_iff_eq] at h
      obtain ⟨rfl, hbody⟩ := h
      cases w <;> first | rfl | simp only [hashEqual, Expr.same_congr hbody]
  | _ =>
      cases v <;> try cases h
      rw [sameKey, beq_iff_eq] at h
      subst h
      rfl

/-- What is compared with a key of a host's dictionary is compared as keys are. -/
theorem hostEqualWithin_key (n : Nat) (v : Value) {w : Value} (hw : w.hashFault? = none) :
    hostEqualWithin n v w = .ok (v.hashEqual w) := by
  induction w using Value.induction generalizing n v with
  | list p ws ih =>
      cases p with
      | host => cases hw
      | template =>
          cases n with
          | zero => cases v <;> rfl
          | succ n =>
              cases v with
              | list o vs =>
                  have hws := hashFault?_list.mp hw
                  have hagree : pairwiseOk (hostEqualWithin n) vs ws =
                      .ok (pairwise hashEqual vs ws) :=
                    pairwiseOk_eq fun v _ w hw => ih w hw n v (hws w hw)
                  cases o with
                  | host => rfl
                  | template =>
                      rw [hostEqualWithin, if_pos ⟨rfl, .inl rfl⟩, hagree, hashEqual,
                        Likeness.hashEqualAll_eq]
                      rfl
              | dictionary o es => cases o <;> rfl
              | _ => rfl
  | dictionary o es => cases o <;> cases hw
  | _ =>
      cases n with
      | zero => cases v <;> rfl
      | succ n =>
          cases v with
          | dictionary o es => cases o <;> rfl
          | _ => rfl

theorem not_holdsHostList {v : Value} (h : v.hashFault? = none) : ¬ v.HoldsHostList := by
  intro hholds
  induction hholds with
  | itself vs => cases h
  | element o hv _ ih =>
      cases o with
      | host => cases h
      | template => exact ih (hashFault?_list.mp h _ hv)

/-! ## Comparisons that may fail -/

theorem allOk_congr {α ε : Type} {f g : α → Except ε Bool} {as : List α}
    (h : ∀ a ∈ as, f a = g a) : allOk f as = allOk g as := by
  induction as with
  | nil => rfl
  | cons a as ih =>
      obtain ⟨hfirst, hrest⟩ := List.forall_mem_cons.mp h
      rw [allOk, allOk, hfirst, ih hrest]

theorem allOk_true {α ε : Type} {f : α → Except ε Bool} {as : List α}
    (h : allOk f as = .ok true) : ∀ a ∈ as, f a = .ok true := by
  induction as with
  | nil => exact fun _ ha => nomatch ha
  | cons a as ih =>
      rw [allOk] at h
      split at h
      · cases h
      · cases h
      · exact List.forall_mem_cons.mpr ⟨‹_›, ih h⟩

/-- A comparison that does not fail has a verdict. -/
theorem exists_of_verdicts {f : Value → Value → Except KeyFault Bool} {vs ws : List Value}
    (h : ∀ v ∈ vs, ∀ w ∈ ws, ∃ b, f v w = .ok b) : ∃ b, pairwiseOk f vs ws = .ok b := by
  refine ⟨_, pairwiseOk_eq (g := fun v w => (f v w).toOption.getD false) fun v hv w hw => ?_⟩
  obtain ⟨b, hb⟩ := h v hv w hw
  rw [hb]
  rfl

theorem exists_of_tests {α : Type} {f : α → Except KeyFault Bool} {as : List α}
    (h : ∀ a ∈ as, ∃ b, f a = .ok b) : ∃ b, allOk f as = .ok b := by
  refine ⟨_, allOk_eq (g := fun a => (f a).toOption.getD false) fun a ha => ?_⟩
  obtain ⟨b, hb⟩ := h a ha
  rw [hb]
  rfl

end Value

namespace Dictionary

open Value

/-! ## The entries in a host's dictionary -/

theorem forall_mem_putAll {same : Value → Value → Bool} {V : Value → Prop} {es : Entries}
    (h : ∀ p ∈ es, V p.2) : ∀ p ∈ putAll same es, V p.2 := by
  induction es using List.reverseRecOn with
  | nil => exact fun _ hp => nomatch hp
  | append_singleton es q ih =>
      rw [putAll_concat]
      intro p hp
      rcases (mem_put hp).2 with hvalue | ⟨r, hr, hvalue⟩
      · exact hvalue ▸ h q (by simp)
      · exact hvalue ▸ ih (fun r hr => h r (List.mem_append_left _ hr)) r hr

theorem hostEntries_of_hashable {es : Entries} (h : ∀ p ∈ es, p.1.hashFault? = none) :
    hostEntries es = .ok (putAll hashEqual es) := by
  have hfirst : firstHashFault? (es.map Prod.fst) = none := by
    rw [Likeness.firstHashFault?_eq, List.findSome?_map]
    exact List.findSome?_eq_none_iff.mpr (List.forall_mem_map.mpr h)
  rw [hostEntries, hfirst]

/-- Keys that a host can hold and that differ to it are all kept. -/
theorem hostEntries_of_differ {es : Entries} (h : ∀ p ∈ es, p.1.hashFault? = none)
    (hdiffer : es.Pairwise fun p q => p.1.hashEqual q.1 = false) : hostEntries es = .ok es := by
  rw [hostEntries_of_hashable h, putAll_of_differ hdiffer]

/-- In a host's dictionary a key settles its entry. -/
theorem Hosted.eq_of_hashEqual {m : Entries} (hm : Hosted m) {q r : Value × Value} (hq : q ∈ m)
    (hr : r ∈ m) (h : q.1.hashEqual r.1 = true) : q = r := by
  by_contra hne
  have hsymm : Std.Symm fun p q : Value × Value => p.1.hashEqual q.1 = false :=
    ⟨fun p q hpq => (hashEqual_comm q.1 p.1).trans hpq⟩
  rw [hm.differ.forall hq hr hne] at h
  cases h

/-- What a host does not take for different, among entries and the keys of its own
dictionary, is the same key. -/
structure Distinguished (d m : Entries) : Prop where
  hashable : ∀ p ∈ d, p.1.hashFault? = none
  differ : d.Pairwise fun p q => p.1.hashEqual q.1 = false
  cross : ∀ p ∈ d, ∀ q ∈ m, q.1.hashEqual p.1 = q.1.sameKey p.1

/-- Where a host tells keys apart as templates do, a dictionary is compared with the
host's just as with the one of templates that has its entries. -/
theorem hostEqualWithin_representations {d m : Entries} (hm : Hosted m)
    (h : Distinguished d m) (n : Nat) :
    hostEqualWithin (n + 1) (.dictionary .template d) (.dictionary .host m) =
      hostEqualWithin (n + 1) (.dictionary .template d) (.dictionary .template m) := by
  have hd := hostEntries_of_differ h.hashable h.differ
  have hm' := hostEntries_of_differ hm.hashable hm.differ
  rw [hostEqualWithin, hostEqualWithin, hd, hm']
  case x_3 =>
    intro _ hhost
    cases hhost
  dsimp only
  congr 1
  refine allOk_congr fun p hp => ?_
  obtain ⟨key, value⟩ := p
  have hfind : m.find? (fun q => q.1.hashEqual key) = found? m key := by
    unfold found?
    rw [← List.head?_filter, ← List.head?_filter, List.filter_congr fun q hq => h.cross _ hp q hq]
  dsimp only
  rw [hfind]
  cases hfound : found? m key with
  | none => rfl
  | some q =>
      have hq : q ∈ m := List.mem_of_find?_eq_some hfound
      have hequal : key.hashEqual q.1 = true := by
        rw [hashEqual_comm, h.cross _ hp q hq, sameKey_of_found? hfound]
      dsimp only
      rw [pairwiseOk, hostEqualWithin_key n key (hm.hashable q hq), hequal]
      dsimp only
      rw [pairwiseOk]
      cases hostEqualWithin n value q.2 with
      | error fault => rfl
      | ok b => cases b <;> rfl

/-- Keys that all stand in a host's dictionary are told apart by the host. -/
theorem Hosted.distinguished {d m : Entries} (hm : Hosted m)
    (hhash : ∀ p ∈ d, p.1.hashFault? = none)
    (hdiffer : d.Pairwise fun p q => p.1.sameKey q.1 = false)
    (hcovers : ∀ p ∈ d, ∃ q ∈ m, q.1.sameKey p.1 = true) : Distinguished d m where
  hashable := hhash
  differ := by
    refine hdiffer.imp_of_mem fun {p p'} hp hp' hne => Bool.eq_false_iff.mpr fun hequal => ?_
    obtain ⟨q, hq, hsame⟩ := hcovers p hp
    obtain ⟨q', hq', hsame'⟩ := hcovers p' hp'
    have hqp' : q.1.hashEqual p'.1 = true := by
      rw [hashEqual_congr hsame (hm.hashable q hq) (hhash p hp), hequal]
    have hqq' : q'.1.hashEqual q.1 = true := by
      rw [hashEqual_congr hsame' (hm.hashable q' hq') (hhash p' hp'), hashEqual_comm, hqp']
    obtain rfl := hm.eq_of_hashEqual hq' hq hqq'
    rw [sameKey_trans ((sameKey_comm p.1 _).trans hsame) hsame'] at hne
    cases hne
  cross := by
    intro p hp r hr
    rw [Bool.eq_iff_iff]
    constructor
    · intro hequal
      obtain ⟨q, hq, hsame⟩ := hcovers p hp
      have hqr : q.1.hashEqual r.1 = true := by
        rw [hashEqual_congr hsame (hm.hashable q hq) (hhash p hp), hashEqual_comm, hequal]
      obtain rfl := hm.eq_of_hashEqual hq hr hqr
      exact hsame
    · exact fun hsame => hashEqual_of_sameKey hsame (hm.hashable r hr) (hhash p hp)

/-- No two keys of different types are equal to a host. -/
def TypedApart (es : Entries) : Prop :=
  ∀ p ∈ es, ∀ q ∈ es, p.1.hashEqual q.1 = true → p.1.sameKey q.1 = true

theorem TypedApart.distinguished {d m : Entries} (h : TypedApart (d ++ m)) (hm : Hosted m)
    (hhash : ∀ p ∈ d, p.1.hashFault? = none)
    (hdiffer : d.Pairwise fun p q => p.1.sameKey q.1 = false) : Distinguished d m where
  hashable := hhash
  differ := by
    refine hdiffer.imp_of_mem fun {p q} hp hq hne => Bool.eq_false_iff.mpr fun hequal => ?_
    rw [h p (List.mem_append_left _ hp) q (List.mem_append_left _ hq) hequal] at hne
    cases hne
  cross := by
    intro p hp q hq
    rw [Bool.eq_iff_iff]
    constructor
    · exact h q (List.mem_append_right _ hq) p (List.mem_append_left _ hp)
    · exact fun hsame => hashEqual_of_sameKey hsame (hm.hashable q hq) (hhash p hp)

/-! ## Comparisons have verdicts -/

/-- Dictionaries of templates, whose values have verdicts. -/
theorem exists_hostEqualWithin_template {n : Nat} {xs ys : Entries}
    (hys : ∀ y ∈ ys, y.1.hashFault? = none)
    (h : ∀ x ∈ xs, ∀ y ∈ ys, ∃ b, hostEqualWithin n x.2 y.2 = .ok b) :
    ∃ b, hostEqualWithin (n + 1) (.dictionary .template xs) (.dictionary .template ys) =
      .ok b := by
  rw [hostEqualWithin]
  split_ifs
  · refine exists_of_tests fun x hx => ?_
    obtain ⟨key, value⟩ := x
    dsimp only
    cases hfound : found? ys key with
    | none => exact ⟨_, rfl⟩
    | some y =>
        have hy : y ∈ ys := List.mem_of_find?_eq_some hfound
        obtain ⟨b, hb⟩ := h _ hx y hy
        dsimp only at hb ⊢
        rw [pairwiseOk, hostEqualWithin_key n key (hys y hy), pairwiseOk, hb]
        cases key.hashEqual y.1 <;> cases b <;> exact ⟨_, rfl⟩
  · exact ⟨_, rfl⟩

/-- Dictionaries of which one at least is a host's. -/
theorem exists_hostEqualWithin_host {n : Nat} {o p : Origin} {xs ys : Entries}
    (hhost : o = .template → p = .template → False)
    (hxs : ∀ x ∈ xs, x.1.hashFault? = none) (hys : ∀ y ∈ ys, y.1.hashFault? = none)
    (h : ∀ x ∈ xs, ∀ y ∈ ys, ∃ b, hostEqualWithin n x.2 y.2 = .ok b) :
    ∃ b, hostEqualWithin (n + 1) (.dictionary o xs) (.dictionary p ys) = .ok b := by
  have hheld : ∀ x ∈ putAll hashEqual xs, ∀ y ∈ putAll hashEqual ys,
      ∃ b, hostEqualWithin n x.2 y.2 = .ok b := by
    intro x hx y hy
    have hleft : ∀ x' ∈ xs, ∃ b, hostEqualWithin n x'.2 y.2 = .ok b := fun x' hx' =>
      forall_mem_putAll (V := fun w => ∃ b, hostEqualWithin n x'.2 w = .ok b) (h x' hx') y hy
    exact forall_mem_putAll (V := fun v => ∃ b, hostEqualWithin n v y.2 = .ok b) hleft x hx
  rw [hostEqualWithin, hostEntries_of_hashable hxs, hostEntries_of_hashable hys]
  case x_3 => exact hhost
  dsimp only
  split_ifs
  · refine exists_of_tests fun x hx => ?_
    obtain ⟨key, value⟩ := x
    dsimp only
    cases hfound : (putAll hashEqual ys).find? fun q => q.1.hashEqual key with
    | none => exact ⟨_, rfl⟩
    | some y => exact hheld _ hx y (List.mem_of_find?_eq_some hfound)
  · exact ⟨_, rfl⟩

end Dictionary

namespace Value

/-- What can be compared at all, a host compares without a fault. -/
theorem exists_hostEqualWithin (n : Nat) {v w : Value} (hv : v.Keyed) (hw : w.Keyed) :
    ∃ b, hostEqualWithin n v w = .ok b := by
  induction n generalizing v w with
  | zero => cases v <;> cases w <;> exact ⟨_, rfl⟩
  | succ n ih =>
      cases v with
      | list o vs =>
          cases w with
          | list p ws =>
              rw [hostEqualWithin]
              split_ifs
              · exact exists_of_verdicts fun v hmem w hmem' =>
                  ih (hv.elements v hmem) (hw.elements w hmem')
              · exact ⟨_, rfl⟩
          | _ => exact ⟨_, rfl⟩
      | dictionary o xs =>
          cases w with
          | dictionary p ys =>
              have hvalues : ∀ x ∈ xs, ∀ y ∈ ys, ∃ b, hostEqualWithin n x.2 y.2 = .ok b :=
                fun x hx y hy => ih (hv.values x hx) (hw.values y hy)
              by_cases hboth : o = .template ∧ p = .template
              · obtain ⟨rfl, rfl⟩ := hboth
                exact Dictionary.exists_hostEqualWithin_template hw.hashable hvalues
              · exact Dictionary.exists_hostEqualWithin_host (not_and.mp hboth) hv.hashable
                  hw.hashable hvalues
          | _ => cases o <;> exact ⟨_, rfl⟩
      | _ => cases w <;> exact ⟨_, rfl⟩

end Value

namespace Dictionary

open Value

/-! ## The two representations of a host's dictionary -/

/-- A host's dictionary in the representation of templates. -/
theorem Hosted.keyed_template {m : Entries} (hm : Hosted m)
    (h : Keyed (.dictionary .host m)) : Keyed (.dictionary .template m) :=
  .template (fun p hp => keyFault?_of_hashable (hm.hashable p hp))
    (fun p hp => not_holdsHostList (hm.hashable p hp)) hm.sameKey_differ h.values

/-- Each entry of an equal dictionary of templates has its key in the other one. -/
theorem covers_of_hostEqual {d t : Entries}
    (h : hostEqual (.dictionary .template d) (.dictionary .template t) = .ok true)
    (ht : ∀ q ∈ t, q.1.hashFault? = none) :
    ∀ p ∈ d, p.1.hashFault? = none ∧ ∃ q ∈ t, q.1.sameKey p.1 = true := by
  rw [hostEqual, depth, hostEqualWithin] at h
  split_ifs at h
  · intro p hp
    have hentry := allOk_true h p hp
    obtain ⟨key, value⟩ := p
    dsimp only at hentry ⊢
    cases hfound : found? t key with
    | none => rw [hfound] at hentry; cases hentry
    | some q =>
        have hq : q ∈ t := List.mem_of_find?_eq_some hfound
        rw [hfound] at hentry
        dsimp only at hentry
        rw [pairwiseOk, hostEqualWithin_key _ key (ht q hq)] at hentry
        cases hequal : key.hashEqual q.1 with
        | false => rw [hequal] at hentry; cases hentry
        | true =>
            rw [hashEqual_comm] at hequal
            exact ⟨hashable_of_hashEqual hequal (ht q hq), q, hq, sameKey_of_found? hfound⟩
  · cases h

/-- A dictionary is compared with a host's in another way than with the one of
templates that has its entries. Neither comparison fails on what can be compared at
all. What is equal as templates compare keys is equal to the host too, and the other
way round as well as long as the host takes no keys of different types for equal. A
key that the host could not hold is a fault of the comparison with its dictionary. -/
theorem hostEqual_representations {entries d m : Entries} (hd : ofEntries entries = .ok d)
    (hm : Hosted m) :
    ∃ t, ofEntries m = .ok t ∧
      (Keyed (.dictionary .template d) → Keyed (.dictionary .host m) → ∃ b b',
        hostEqual (.dictionary .template d) (.dictionary .host m) = .ok b ∧
        hostEqual (.dictionary .template d) (.dictionary .template t) = .ok b') ∧
      (hostEqual (.dictionary .template d) (.dictionary .template t) = .ok true →
        hostEqual (.dictionary .template d) (.dictionary .host m) = .ok true) ∧
      ((∀ p ∈ d, p.1.hashFault? = none) → TypedApart (d ++ m) →
        hostEqual (.dictionary .template d) (.dictionary .host m) =
          hostEqual (.dictionary .template d) (.dictionary .template t)) ∧
      ∀ fault, firstHashFault? (d.map Prod.fst) = some fault →
        hostEqual (.dictionary .template d) (.dictionary .host m) = .error fault := by
  have hdiffer : d.Pairwise fun p q => p.1.sameKey q.1 = false := by
    unfold ofEntries at hd
    split at hd
    · cases hd
    · cases hd
      exact (putAll_differ entries).imp fun hpq => hpq.1
  refine ⟨m, hm.ofEntries_eq, fun hdk hmk => ?_, fun hequal => ?_, fun hhash hapart => ?_,
    fun fault hfault => ?_⟩
  · obtain ⟨b, hb⟩ := exists_hostEqualWithin _ hdk hmk
    obtain ⟨b', hb'⟩ := exists_hostEqualWithin _ hdk (hm.keyed_template hmk)
    exact ⟨b, b', hb, hb'⟩
  · have hcovers := covers_of_hostEqual hequal hm.hashable
    have hdistinguished := hm.distinguished (fun p hp => (hcovers p hp).1) hdiffer
      fun p hp => (hcovers p hp).2
    exact (hostEqualWithin_representations hm hdistinguished _).trans hequal
  · exact hostEqualWithin_representations hm (hapart.distinguished hm hhash hdiffer) _
  · have hleft : hostEntries d = .error fault := by rw [hostEntries, hfault]
    rw [hostEqual, depth, hostEqualWithin, hleft]
    intro _ hhost
    cases hhost

/-- A key that is a list, and entries in another order. -/
theorem hostEqual_representations_tuple :
    let one : Value × Value := (.integer 1, .string "a")
    let tuple : Value × Value := (.list .template [.integer 1], .boolean true)
    ofEntries [one, tuple] = .ok [one, tuple] ∧ Hosted [tuple, one] ∧
      hostEqual (.dictionary .template [one, tuple]) (.dictionary .host [tuple, one]) =
        .ok true ∧
      ∃ t, ofEntries [tuple, one] = .ok t ∧
        hostEqual (.dictionary .template [one, tuple]) (.dictionary .template t) = .ok true := by
  intro one tuple
  have hentries : ofEntries [one, tuple] = .ok [one, tuple] := rfl
  have hosted : Hosted [tuple, one] :=
    ⟨by simp [one, tuple, hashFault?, firstHashFault?], List.pairwise_pair.mpr rfl⟩
  obtain ⟨t, ht, -, hequal, -⟩ := hostEqual_representations hentries hosted
  obtain rfl : [tuple, one] = t := Except.ok.inj (hosted.ofEntries_eq.symm.trans ht)
  exact ⟨hentries, hosted, hequal rfl, _, ht, rfl⟩

/-- To the host `1` and `true` are one key, and so the dictionaries with these keys
are equal, which no dictionaries of templates are. -/
theorem hostEqual_crossType :
    let d : Entries := [(.integer 1, .string "x")]
    let m : Entries := [(.boolean true, .string "x")]
    ofEntries d = .ok d ∧ ofEntries m = .ok m ∧ Hosted m ∧
      hostEqual (.dictionary .template d) (.dictionary .host m) = .ok true ∧
      hostEqual (.dictionary .template d) (.dictionary .template m) = .ok false :=
  ⟨rfl, rfl, .singleton rfl, rfl, rfl⟩

end Dictionary

end Inlay
