import Inlay.Proofs.Invariants
import Inlay.Proofs.WellFormed

/-!
# Every value of a run is well-formed

The values that templates compute with meet conditions that a host could break:
integers have 64 bits, lists and dictionaries are those that templates build,
the keys of a dictionary differ from each other, and no key is or holds a
dictionary (`Value.WellFormed`). Literals meet them, every routine of the
library restores them (`run_wellFormed`), and so does every expression; with
properties as its scope, a run of a template comes to no other values
(`visits_wellFormed`).

The size of a string or list is an integer of the language only while it has
64 bits (`Value.Small`), and the clock is assumed to.
-/

namespace Inlay

open Evaluation

/-! ## Sameness of keys is symmetric -/

theorem Binary64.equals_comm (x y : Binary64) : x.equals y = y.equals x := by
  unfold Binary64.equals
  cases x.position? <;> cases y.position? <;> first | rfl | simp only [eq_comm]

theorem Binary64.same_comm (x y : Binary64) : x.same y = y.same x := by
  cases x <;> cases y <;> simp only [Binary64.same, eq_comm] <;> exact equals_comm _ _

namespace Expr

theorem sameAll_comm {es : List Expr} (h : ∀ e ∈ es, ∀ f, e.same f = f.same e) (fs : List Expr) :
    sameAll es fs = sameAll fs es := by
  induction es generalizing fs with
  | nil => cases fs <;> rfl
  | cons e es ih =>
      obtain ⟨he, hes⟩ := List.forall_mem_cons.mp h
      cases fs with
      | nil => rfl
      | cons f fs => rw [sameAll, sameAll, he f, ih hes fs]

theorem sameEntries_comm {es : List (Expr × Expr)}
    (h : ∀ p ∈ es, (∀ f, p.1.same f = f.same p.1) ∧ ∀ f, p.2.same f = f.same p.2)
    (fs : List (Expr × Expr)) : sameEntries es fs = sameEntries fs es := by
  induction es generalizing fs with
  | nil => cases fs <;> rfl
  | cons p es ih =>
      obtain ⟨hp, hes⟩ := List.forall_mem_cons.mp h
      cases fs with
      | nil => rfl
      | cons q fs => rw [sameEntries, sameEntries, hp.1 q.1, hp.2 q.2, ih hes fs]

theorem same_comm (e f : Expr) : e.same f = f.same e := by
  induction e using Expr.induction generalizing f with
  | string | integer | name => cases f <;> first | rfl | simp only [same, BEq.comm]
  | float l x => cases f <;> first | rfl | simp only [same, Binary64.equals_comm x, BEq.comm]
  | member l b w ih => cases f <;> first | rfl | simp only [same, ih, BEq.comm]
  | index l b k ihb ihk => cases f <;> first | rfl | simp only [same, ihb, ihk, BEq.comm]
  | call l g es ihg ihes =>
      cases f <;> first | rfl | simp only [same, ihg, sameAll_comm ihes, BEq.comm]
  | choice l c a b ihc iha ihb =>
      cases f <;> first | rfl | simp only [same, ihc, iha, ihb, BEq.comm]
  | list l es ih => cases f <;> first | rfl | simp only [same, sameAll_comm ih, BEq.comm]
  | dictionary l es ih =>
      cases f <;> first | rfl | simp only [same, sameEntries_comm ih, BEq.comm]
  | function l ps b ih => cases f <;> first | rfl | simp only [same, ih, BEq.comm]

end Expr

namespace Value

theorem pairwise_comm {f : Value → Value → Bool} {vs ws : List Value}
    (h : ∀ v ∈ vs, ∀ w ∈ ws, f v w = f w v) : pairwise f vs ws = pairwise f ws vs := by
  induction vs generalizing ws with
  | nil => cases ws <;> rfl
  | cons v vs ih =>
      cases ws with
      | nil => rfl
      | cons w ws =>
          have hfirst : f v w = f w v := h v List.mem_cons_self w List.mem_cons_self
          have hrest : pairwise f vs ws = pairwise f ws vs := ih fun v' hv' w' hw' =>
            h v' (List.mem_cons_of_mem _ hv') w' (List.mem_cons_of_mem _ hw')
          rw [pairwise, pairwise, hfirst, hrest]

theorem sameKey_comm (v w : Value) : v.sameKey w = w.sameKey v := by
  induction v using Value.induction generalizing w with
  | list o vs ih =>
      cases w with
      | list o' ws =>
          rw [sameKey, sameKey, Likeness.sameKeys_eq, Likeness.sameKeys_eq,
            pairwise_comm fun v hv w _ => ih v hv w]
      | _ => rfl
  | float x => cases w <;> first | rfl | simp only [sameKey, Binary64.same_comm x]
  | closure ps b frames =>
      cases w <;> first | rfl | simp only [sameKey, Expr.same_comm b, BEq.comm]
  | _ => cases w <;> first | rfl | simp only [sameKey, BEq.comm]

/-! ## Well-formed values -/

/-- A value that is a dictionary or, through lists, holds one. -/
inductive HoldsDictionary : Value → Prop
  | itself (o : Origin) (es : List (Value × Value)) : HoldsDictionary (.dictionary o es)
  | element (o : Origin) {vs : List Value} {v : Value} (hv : v ∈ vs) (h : HoldsDictionary v) :
      HoldsDictionary (.list o vs)

/-- Entries with different keys. -/
def KeysDiffer (p q : Value × Value) : Prop :=
  p.1.sameKey q.1 = false ∧ q.1.sameKey p.1 = false

/-- A value as templates make them: nothing in it is foreign, integers have 64
bits, lists and dictionaries are in the representation of templates, keys differ
and hold no dictionaries, and closures have well-formed bodies and have captured
well-formed values. -/
inductive WellFormed : Value → Prop
  | integer {n : Int} (h : Number.inRange n = true) : WellFormed (.integer n)
  | float (x : Binary64) : WellFormed (.float x)
  | string (s : String) : WellFormed (.string s)
  | boolean (b : Bool) : WellFormed (.boolean b)
  | list {vs : List Value} (h : ∀ v ∈ vs, WellFormed v) : WellFormed (.list .template vs)
  | dictionary {es : List (Value × Value)} (hkeys : ∀ p ∈ es, WellFormed p.1)
      (hvalues : ∀ p ∈ es, WellFormed p.2) (hdiffer : es.Pairwise KeysDiffer)
      (hplain : ∀ p ∈ es, ¬ p.1.HoldsDictionary) : WellFormed (.dictionary .template es)
  | closure (ps : List String) {b : Expr} {frames : List Frame} (hbody : b.WellFormed)
      (hframes : ∀ frame ∈ frames, ∀ p ∈ frame, WellFormed p.2) :
      WellFormed (.closure ps b frames)
  | builtin {f : Function} {routine : StandardRoutine} (h : f.routine = .standard routine) :
      WellFormed (.builtin f)

/-- A value whose size, if it has one, is an integer of 64 bits. -/
def Small : Value → Prop
  | string s => s.length < 0x8000000000000000
  | list _ vs => vs.length < 0x8000000000000000
  | dictionary _ es => es.length < 0x8000000000000000
  | _ => True

theorem not_holdsDictionary {v : Value} (h : v.keyFault? = none) : ¬ v.HoldsDictionary := by
  intro hholds
  induction hholds with
  | itself o es => cases h
  | @element o vs v hv _ ih =>
      rw [keyFault?, Likeness.firstKeyFault?_eq_none] at h
      exact ih (h v hv)

/-- A well-formed value is one that templates know. -/
theorem WellFormed.isKnown {v : Value} (h : v.WellFormed) : v.isKnown = true := by
  induction h with
  | list _ ih =>
      rw [Value.isKnown, Likeness.allKnown_eq, List.all_map, List.all_eq_true]
      exact ih
  | dictionary _ _ _ _ ihk ihv =>
      rw [Value.isKnown, Likeness.allEntriesKnown_eq, List.all_map, List.all_eq_true]
      intro p hp
      exact Bool.and_eq_true_iff.mpr ⟨ihk p hp, ihv p hp⟩
  | _ => rfl

theorem inRange_iff {n : Int} :
    Number.inRange n = true ↔ -0x8000000000000000 ≤ n ∧ n ≤ 0x7FFFFFFFFFFFFFFF := by
  unfold Number.inRange Number.least Number.greatest
  simp only [Bool.and_eq_true, decide_eq_true_eq]

theorem wellFormed_length {n : Nat} (h : n < 0x8000000000000000) :
    WellFormed (.integer (n : Int)) :=
  .integer (inRange_iff.mpr (by omega))

theorem WellFormed.elements {o : Origin} {vs : List Value} (h : WellFormed (.list o vs)) :
    ∀ v ∈ vs, v.WellFormed := by
  cases h with
  | list h => exact h

theorem WellFormed.inRange {n : Int} (h : WellFormed (.integer n)) : Number.inRange n = true := by
  cases h with
  | integer h => exact h

end Value

/-! ## Dictionaries -/

namespace Dictionary

theorem mem_put {same : Value → Value → Bool} {key value : Value} {es : List (Value × Value)}
    {q : Value × Value} (h : q ∈ put same key value es) :
    (q.1 = key ∨ ∃ p ∈ es, q.1 = p.1) ∧ (q.2 = value ∨ ∃ p ∈ es, q.2 = p.2) := by
  induction es with
  | nil =>
      cases List.mem_singleton.mp h
      exact ⟨.inl rfl, .inl rfl⟩
  | cons p rest ih =>
      obtain ⟨k, v⟩ := p
      have hrest : ∀ {q : Value × Value}, q ∈ rest →
          (q.1 = key ∨ ∃ p ∈ (k, v) :: rest, q.1 = p.1) ∧
            (q.2 = value ∨ ∃ p ∈ (k, v) :: rest, q.2 = p.2) := fun hq =>
        ⟨.inr ⟨_, List.mem_cons_of_mem _ hq, rfl⟩, .inr ⟨_, List.mem_cons_of_mem _ hq, rfl⟩⟩
      rw [put] at h
      split_ifs at h
      · rcases List.mem_cons.mp h with rfl | h
        · exact ⟨.inr ⟨(k, v), List.mem_cons_self, rfl⟩, .inl rfl⟩
        · exact hrest h
      · rcases List.mem_cons.mp h with rfl | h
        · exact ⟨.inr ⟨(k, v), List.mem_cons_self, rfl⟩, .inr ⟨(k, v), List.mem_cons_self, rfl⟩⟩
        · obtain ⟨hkey, hvalue⟩ := ih h
          exact ⟨hkey.imp_right (.imp fun p => .imp_left (List.mem_cons_of_mem _)),
            hvalue.imp_right (.imp fun p => .imp_left (List.mem_cons_of_mem _))⟩

/-- A key that is put is either there already or different from all others. -/
theorem put_differ (key value : Value) {es : List (Value × Value)}
    (h : es.Pairwise Value.KeysDiffer) :
    (put Value.sameKey key value es).Pairwise Value.KeysDiffer := by
  induction es with
  | nil => exact List.pairwise_singleton _ _
  | cons p rest ih =>
      obtain ⟨k, v⟩ := p
      obtain ⟨hfirst, hrest⟩ := List.pairwise_cons.mp h
      rw [put]
      split_ifs with hsame
      · exact List.pairwise_cons.mpr ⟨hfirst, hrest⟩
      · refine List.pairwise_cons.mpr ⟨fun q hq => ?_, ih hrest⟩
        have hapart : k.sameKey key = false := Bool.eq_false_iff.mpr hsame
        rcases (mem_put hq).1 with hkey | ⟨p, hp, hkey⟩
        · unfold Value.KeysDiffer
          rw [hkey]
          exact ⟨hapart, (Value.sameKey_comm key k).trans hapart⟩
        · unfold Value.KeysDiffer
          rw [hkey]
          exact hfirst p hp

/-- The dictionary of some entries keeps what holds of all their keys and of
all their values. -/
theorem putAll_spec {K V : Value → Prop} {es : List (Value × Value)}
    (h : ∀ p ∈ es, K p.1 ∧ V p.2) :
    (∀ p ∈ putAll Value.sameKey es, K p.1 ∧ V p.2) ∧
      (putAll Value.sameKey es).Pairwise Value.KeysDiffer := by
  have hfold : ∀ ds : List (Value × Value), (∀ p ∈ ds, K p.1 ∧ V p.2) →
      ds.Pairwise Value.KeysDiffer →
      (∀ p ∈ es.foldl (fun d (p : Value × Value) => put Value.sameKey p.1 p.2 d) ds,
        K p.1 ∧ V p.2) ∧
      (es.foldl (fun d (p : Value × Value) => put Value.sameKey p.1 p.2 d) ds).Pairwise
        Value.KeysDiffer := by
    induction es with
    | nil => exact fun _ hds hdiffer => ⟨hds, hdiffer⟩
    | cons p rest ih =>
        obtain ⟨hp, hrest⟩ := List.forall_mem_cons.mp h
        intro ds hds hdiffer
        refine ih hrest _ (fun q hq => ?_) (put_differ p.1 p.2 hdiffer)
        obtain ⟨hkey, hvalue⟩ := mem_put hq
        constructor
        · rcases hkey with hkey | ⟨d, hd, hkey⟩
          · exact hkey ▸ hp.1
          · exact hkey ▸ (hds d hd).1
        · rcases hvalue with hvalue | ⟨d, hd, hvalue⟩
          · exact hvalue ▸ hp.2
          · exact hvalue ▸ (hds d hd).2
  exact hfold [] (fun _ h => nomatch h) List.Pairwise.nil

end Dictionary

/-! ## What routines return -/

/-- The result of an outcome, if it has one, satisfies a predicate. -/
def Outcome.Yields {α : Type} (P : α → Prop) (x : Outcome α) : Prop := ∀ a, x = .ok a → P a

namespace Outcome.Yields

variable {α β : Type} {P : α → Prop} {Q : β → Prop}

theorem ok {a : α} (h : P a) : Yields P (.ok a) := by
  intro b hb
  cases hb
  exact h

theorem error (f : CallFault) : Yields P (.error f) := fun _ h => nomatch h

theorem bind {x : Outcome α} {f : α → Outcome β} (h : Yields P x)
    (hf : ∀ a, P a → Yields Q (f a)) : Yields Q (x >>= f) := by
  cases x with
  | ok a => exact hf a (h a rfl)
  | error fault => exact error fault

theorem bind_any {x : Outcome α} {f : α → Outcome β} (hf : ∀ a, Yields Q (f a)) :
    Yields Q (x >>= f) := by
  cases x with
  | ok a => exact hf a
  | error fault => exact error fault

theorem map {x : Outcome α} {f : α → β} (h : Yields P x) (hf : ∀ a, P a → Q (f a)) :
    Yields Q (x.map f) := by
  cases x with
  | ok a => exact ok (hf a (h a rfl))
  | error fault => exact error fault

theorem map_any {x : Outcome α} {f : α → β} (hf : ∀ a, Q (f a)) : Yields Q (x.map f) := by
  cases x with
  | ok a => exact ok (hf a)
  | error fault => exact error fault

end Outcome.Yields

section

open Outcome Value

variable {v w : Value}

theorem yields_bounded (n : Int) : Yields WellFormed ((Number.bounded n).map Value.integer) := by
  unfold Number.bounded
  split_ifs with h
  · exact .ok (.integer h)
  · exact .error _

theorem yields_result (n : Number) : Yields WellFormed n.result := by
  cases n with
  | integer n => exact yields_bounded n
  | float x => exact .ok (.float x)

/-- A remainder is no further from zero than the dividend, on the same side. -/
theorem inRange_remainder {n : Int} (h : Number.inRange n = true) (d : Int) :
    Number.inRange (Arithmetic.remainder n d) = true := by
  rw [inRange_iff] at h ⊢
  have hsize : n.natAbs % d.natAbs ≤ n.natAbs := Nat.mod_le _ _
  simp only [Arithmetic.remainder]
  split_ifs with hn <;> omega

theorem yields_div (payload : Nat) : Yields WellFormed (Arithmetic.div payload v w) := by
  refine .bind_any fun a => .bind_any fun b => ?_
  split
  · split_ifs
    · exact .error _
    · exact yields_bounded _
  · split_ifs
    · exact .error _
    · exact .bind_any fun x => .bind_any fun y => .ok (.float _)

theorem yields_mod (payload : Nat) (hv : v.WellFormed) :
    Yields WellFormed (Arithmetic.mod payload v w) := by
  have hnumber : Yields (fun n => n.toValue.WellFormed) (Number.ofArgument v) := by
    intro n hn
    cases v with
    | integer | float =>
        cases hn
        exact hv
    | _ => cases hn
  refine .bind hnumber fun a ha => .bind_any fun b => ?_
  split_ifs
  · exact .error _
  · split
    · exact .ok (.integer (inRange_remainder ha.inRange _))
    · refine .bind_any fun x => .bind_any fun y => ?_
      split
      · exact .ok (.float _)
      · exact .error _

theorem yields_size (hv : v.Small) : Yields WellFormed (Collections.size v) := by
  cases v with
  | list o vs => exact .ok (wellFormed_length hv)
  | dictionary o es => exact .ok (wellFormed_length hv)
  | string s => exact .ok (wellFormed_length hv)
  | _ => exact .error _

theorem yields_list (hv : v.WellFormed) :
    Yields (fun vs => ∀ u ∈ vs, u.WellFormed) (Argument.list v) := by
  cases v with
  | list o vs => exact .ok hv.elements
  | _ => exact .error _

theorem yields_dictionary (hv : v.WellFormed) :
    Yields (fun es => ∀ p ∈ es, p.1.WellFormed ∧ p.2.WellFormed) (Argument.dictionary v) := by
  cases hv with
  | dictionary hkeys hvalues => exact .ok fun p hp => ⟨hkeys p hp, hvalues p hp⟩
  | _ => exact .error _

theorem yields_head (hv : v.WellFormed) : Yields WellFormed (Collections.head v) := by
  refine .bind (yields_list hv) fun vs hvs => ?_
  cases vs with
  | nil => exact .error _
  | cons u us => exact .ok (hvs u List.mem_cons_self)

theorem yields_tail (hv : v.WellFormed) : Yields WellFormed (Collections.tail v) :=
  .map (yields_list hv) fun _ hvs => .list fun u hu => hvs u (List.mem_of_mem_drop hu)

theorem yields_keys (hv : v.WellFormed) : Yields WellFormed (Collections.keys v) := by
  refine .map (yields_dictionary hv) fun es hes => .list fun u hu => ?_
  obtain ⟨p, hp, rfl⟩ := List.mem_map.mp hu
  exact (hes p hp).1

theorem yields_values (hv : v.WellFormed) : Yields WellFormed (Collections.values v) := by
  refine .map (yields_dictionary hv) fun es hes => .list fun u hu => ?_
  obtain ⟨p, hp, rfl⟩ := List.mem_map.mp hu
  exact (hes p hp).2

theorem yields_contains : Yields WellFormed (Collections.contains v w) := by
  unfold Collections.contains
  split
  · exact .ok (.boolean _)
  · split
    · exact .ok (.boolean _)
    · exact .error _
  · exact .map_any fun _ => .boolean _
  · exact .error _

theorem yields_integers {vs : List Value} (hvs : ∀ v ∈ vs, v.WellFormed) :
    Yields (fun ns => ∀ n ∈ ns, Number.inRange n = true) (vs.mapM Argument.integer) := by
  induction vs with
  | nil => exact .ok fun _ h => nomatch h
  | cons v vs ih =>
      obtain ⟨hv, hvs⟩ := List.forall_mem_cons.mp hvs
      have hfirst : Yields (fun n => Number.inRange n = true) (Argument.integer v) := by
        cases v with
        | integer n => exact .ok hv.inRange
        | _ => exact .error _
      rw [List.mapM_cons]
      exact .bind hfirst fun n hn => .bind (ih hvs) fun ns hns =>
        .ok (List.forall_mem_cons.mpr ⟨hn, hns⟩)

/-- The integers between two bounds of 64 bits have 64 bits. -/
theorem wellFormed_integersFrom {start stop : Int} (hstart : Number.inRange start = true)
    (hstop : Number.inRange stop = true) :
    ∀ u ∈ Collections.integersFrom start stop, u.WellFormed := by
  intro u hu
  obtain ⟨i, hi, rfl⟩ := List.mem_map.mp hu
  rw [List.mem_range] at hi
  rw [inRange_iff] at hstart hstop
  exact .integer (inRange_iff.mpr (by omega))

theorem yields_interval {start stop : Int} (hstart : Number.inRange start = true)
    (hstop : Number.inRange stop = true) :
    Yields WellFormed (if CallFault.rangeLimit < stop - start then
        .error (.rangeTooLarge (stop - start))
      else .ok (.list .template (Collections.integersFrom start stop))) := by
  split_ifs
  · exact .error _
  · exact .ok (.list (wellFormed_integersFrom hstart hstop))

theorem yields_range {vs : List Value} (hvs : ∀ v ∈ vs, v.WellFormed) :
    Yields WellFormed (Collections.range vs) := by
  have hzero : Number.inRange 0 = true := rfl
  refine .bind (yields_integers fun v hv => hvs v ?_) fun ns hns => ?_
  · split at hv
    · simp [List.mem_singleton.mp hv]
    · exact hv
  -- one bound is where the integers stop, of two the first is where they start
  rcases ns with _ | ⟨start, _ | ⟨stop, rest⟩⟩
  · exact yields_interval hzero hzero
  · exact yields_interval hzero (hns start (by simp))
  · exact yields_interval (hns start (by simp)) (hns stop (by simp))

theorem yields_split : Yields WellFormed (Strings.split v w) := by
  refine .bind_any fun text => .bind_any fun separator => ?_
  split_ifs
  · exact .error _
  · refine .ok (.list fun u hu => ?_)
    obtain ⟨piece, -, rfl⟩ := List.mem_map.mp hu
    exact .string _

theorem yields_toInteger (hv : v.WellFormed) : Yields WellFormed (Conversion.toInteger v) := by
  unfold Conversion.toInteger
  split
  · exact .ok hv
  · exact .error _
  · split
    · exact yields_bounded _
    · exact .error _
  · dsimp only
    split
    · exact yields_bounded _
    · exact .error _
    · exact .error _
  · exact .error _

theorem yields_toFloat (payload : Nat) : Yields WellFormed (Conversion.toFloat payload v) := by
  unfold Conversion.toFloat
  split
  · exact .map_any fun x => .float x
  · exact .ok (.float _)
  · dsimp only
    split
    · exact .ok (.float _)
    · exact .error _
  · exact .error _

theorem yields_format {vs : List Value} : Yields WellFormed (Strings.format v vs) := by
  refine .bind_any fun text => ?_
  split
  · exact .ok (.string _)
  · exact .error _

theorem yields_matches : Yields WellFormed (Strings.matchesPattern v w) := by
  refine .bind_any fun text => .bind_any fun source => ?_
  split
  · exact .ok (.boolean _)
  · exact .error _

theorem yields_formatTime {u : Value} : Yields WellFormed (Times.format u v w) := by
  unfold Times.format
  cases u <;>
    · refine .bind_any fun instant => .bind_any fun text => .bind_any fun key => ?_
      dsimp only
      split
      · exact .ok (.string _)
      · exact .error _

/-- Every routine of the library returns a well-formed value for well-formed
arguments whose sizes are integers of 64 bits. -/
theorem run_wellFormed {s : Surroundings} (hclock : Number.inRange s.clock = true)
    (routine : StandardRoutine) {vs : List Value} (hvs : ∀ v ∈ vs, v.WellFormed ∧ v.Small) :
    Yields WellFormed (routine.run s vs) := by
  have hall : ∀ v ∈ vs, v.WellFormed := fun v hv => (hvs v hv).1
  have hsmall : ∀ v ∈ vs, v.Small := fun v hv => (hvs v hv).2
  unfold StandardRoutine.run
  split
  -- comparison and logic
  · exact .ok (.boolean _)
  · exact .ok (.boolean _)
  · exact .map_any fun _ => .boolean _
  · exact .map_any fun _ => .boolean _
  · exact .map_any fun _ => .boolean _
  · exact .map_any fun _ => .boolean _
  · exact .map_any fun _ => .boolean _
  · exact .map_any fun _ => .boolean _
  · exact .map_any fun _ => .boolean _
  -- arithmetic
  · exact .bind_any fun _ => .bind_any fun sum => yields_result sum
  · exact .bind_any fun _ => .bind_any fun _ => .bind_any fun d => yields_result d
  · exact .bind_any fun _ => .bind_any fun product => yields_result product
  · exact yields_div _
  · exact yields_mod _ (hall _ List.mem_cons_self)
  -- strings
  · exact .ok (.string _)
  · exact .map_any fun _ => .string _
  · exact .map_any fun _ => .string _
  · exact .map_any fun _ => .string _
  · exact .bind_any fun _ => .bind_any fun _ => .bind_any fun _ => .ok (.string _)
  · exact yields_matches
  · exact yields_split
  · exact .bind_any fun _ => .bind_any fun _ => .ok (.string _)
  · exact yields_format
  -- collections
  · exact yields_size (hsmall _ List.mem_cons_self)
  · exact yields_head (hall _ List.mem_cons_self)
  · exact yields_tail (hall _ List.mem_cons_self)
  · exact yields_keys (hall _ List.mem_cons_self)
  · exact yields_values (hall _ List.mem_cons_self)
  · exact yields_contains
  · exact yields_range hall
  -- conversion and times
  · exact yields_toInteger (hall _ List.mem_cons_self)
  · exact yields_toFloat _
  · exact .ok (.string _)
  · exact yields_formatTime
  · exact yields_formatTime
  · exact .ok (.integer hclock)
  · exact .error _

end

/-! ## Runs -/

theorem keeps_wellFormed {context : Context} (hclock : Number.inRange context.clock = true)
    (hstandard : ∀ f ∈ context.registry.functions, ∃ routine, f.routine = .standard routine) :
    Keeps context Expr.WellFormed Value.Small Value.WellFormed where
  integer h := by
    cases h with
    | integer hn => exact .integer (Value.inRange_iff.mpr hn)
  float := .float
  string := .string
  boolean := .boolean
  builtin f hf := by
    obtain ⟨routine, h⟩ := hstandard f hf
    exact .builtin h
  list := .list
  elements := Value.WellFormed.elements
  dictionary {es} h := by
    obtain ⟨hall, hdiffer⟩ := Dictionary.putAll_spec
      (K := fun k => k.keyFault? = none ∧ k.WellFormed) (V := Value.WellFormed)
      fun p hp => ⟨⟨(h p hp).1, (h p hp).2.1⟩, (h p hp).2.2⟩
    exact .dictionary (fun p hp => (hall p hp).1.2) (fun p hp => (hall p hp).2) hdiffer
      fun p hp => Value.not_holdsDictionary (hall p hp).1.1
  values h := by
    cases h with
    | dictionary _ hvalues => exact hvalues
  closure {ps b frames} := by
    constructor
    · intro h
      cases h with
      | closure _ hbody hframes => exact ⟨hbody.nodes, hframes⟩
    · rintro ⟨hnodes, hframes⟩
      exact .closure ps (hnodes b (Expr.self_mem_nodes b)) hframes
  routine {f l vs r r' v} hf hvs h := by
    cases hf with
    | @builtin f routine hroutine =>
        rw [runRoutine_standard context l hroutine] at h
        cases hrun : routine.run ⟨context.clock, r.calls⟩ vs with
        | ok u =>
            rw [hrun] at h
            cases h
            exact run_wellFormed hclock routine hvs _ hrun
        | error fault =>
            rw [hrun] at h
            cases h

/-- Every value that any expression comes to in a run of a template that was
read, whether the run succeeds or fails, is a well-formed value, and so are the
values inside it and those that its closures captured. -/
theorem visits_wellFormed {reader : Reader.Stack} {text : String} {t : Template}
    (h : Template.parse reader text = .ok t) (properties : List Property) {context : Context}
    (hlibrary : context.registry = Library.registry)
    (hclock : Number.inRange context.clock = true) {record : Record}
    (hsmall : ∀ y, t.Visits context (Scope.ofProperties properties) record y →
      ∀ v r, y.run context = (.ok v, r) → v.Small)
    {x : Visit} (hx : t.Visits context (Scope.ofProperties properties) record x) {v : Value}
    {r : Record} (hv : x.run context = (.ok v, r)) :
    v.WellFormed ∧ v.isKnown = true := by
  have hkeeps := keeps_wellFormed hclock (hlibrary ▸ registry_standard)
  have hfits := hkeeps.visits (parse_nodes_wellFormed h)
    (Frame.all_ofProperties .string properties) hsmall hx
  have hvalue := hkeeps.value hfits (fun y hy => hsmall y (hx.trans hy)) hv
  exact ⟨hvalue, hvalue.isKnown⟩

/-- The four evaluations of a call with a list: their values are small, so they
are well-formed. -/
theorem visits_wellFormed_size :
    let context : Context := ⟨Library.registry, Host.none, 0, 8⟩
    let scope := Scope.ofProperties []
    let list : Expr := .list ⟨1, 10⟩ [.integer ⟨1, 11⟩ 1]
    ∃ t, Template.parse .usual "<%= size([1]) %>" = .ok t ∧
      (∀ y, t.Visits context scope ⟨0, []⟩ y → ∀ v r, y.run context = (.ok v, r) → v.Small) ∧
      t.Visits context scope ⟨0, []⟩ ⟨8, scope, list, ⟨0, []⟩⟩ ∧
      (Value.list .template [.integer 1]).WellFormed ∧
      (Value.list .template [.integer 1]).isKnown = true := by
  intro context scope list
  let name : Expr := .name ⟨1, 5⟩ "size"
  let call : Expr := .call ⟨1, 9⟩ name [list]
  let t : Template := ⟨[call]⟩
  have hread : Template.parse .usual "<%= size([1]) %>" = .ok t := by
    with_unfolding_all rfl
  have hname : ∀ r, Visit.run context ⟨8, scope, name, r⟩ =
      (.ok (.builtin (Library.entry "size" .size 1 (some 1)
        "Length of a List, Dictionary or String.")), r) := by
    intro r
    with_unfolding_all rfl
  have hshape : ∀ y, t.Visits context scope ⟨0, []⟩ y → ∃ e r, y = ⟨8, scope, e, r⟩ ∧
      (e = call ∨ e = name ∨ e = list ∨ e = .integer ⟨1, 11⟩ 1) := by
    intro y hy
    induction hy with
    | child he => exact ⟨_, _, rfl, .inl (List.mem_singleton.mp he.mem)⟩
    | step _ hs ih =>
        obtain ⟨e, r, rfl, rfl | rfl | rfl | rfl⟩ := ih
        · change Visit.Starts context ⟨8, scope, .call ⟨1, 9⟩ name [list], r⟩ _ at hs
          cases hs with
          | callee => exact ⟨_, _, rfl, .inr (.inl rfl)⟩
          | argument _ he => exact ⟨_, _, rfl, .inr (.inr (.inl (List.mem_singleton.mp he.mem)))⟩
          | body hf => cases (hname r).symm.trans hf
        · change Visit.Starts context ⟨8, scope, .name ⟨1, 5⟩ "size", r⟩ _ at hs
          cases hs
        · change Visit.Starts context ⟨8, scope, .list ⟨1, 10⟩ [.integer ⟨1, 11⟩ 1], r⟩ _ at hs
          cases hs with
          | element he => exact ⟨_, _, rfl, .inr (.inr (.inr (List.mem_singleton.mp he.mem)))⟩
        · cases hs
  have hlist : ∀ r, Visit.run context ⟨8, scope, list, r⟩ =
      (.ok (.list .template [.integer 1]), r) := by
    intro r
    with_unfolding_all rfl
  have hcall : ∀ r, ∃ r', Visit.run context ⟨8, scope, call, r⟩ = (.ok (.integer 1), r') := by
    intro r
    exact ⟨{ r with calls := r.calls + 1 }, by with_unfolding_all rfl⟩
  have hsmall : ∀ y, t.Visits context scope ⟨0, []⟩ y →
      ∀ v r, y.run context = (.ok v, r) → v.Small := by
    intro y hy v r hv
    obtain ⟨e, r₀, rfl, rfl | rfl | rfl | rfl⟩ := hshape y hy
    · obtain ⟨r', hrun⟩ := hcall r₀
      cases hv.symm.trans hrun
      trivial
    · cases hv.symm.trans (hname r₀)
      trivial
    · cases hv.symm.trans (hlist r₀)
      exact (by decide : 1 < 0x8000000000000000)
    · cases hv
      trivial
  have hvisit : t.Visits context scope ⟨0, []⟩ ⟨8, scope, list, ⟨0, []⟩⟩ :=
    .step (.child (comesTo_head call [] _)) (.argument (hname _) (comesTo_head list [] _))
  exact ⟨t, hread, hsmall, hvisit,
    visits_wellFormed hread [] rfl rfl hsmall hvisit (hlist ⟨0, []⟩)⟩

end Inlay
