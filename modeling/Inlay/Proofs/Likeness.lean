import Inlay.Proofs.Payloads
import Inlay.Value.Display
import Inlay.Value.Equality

/-!
# Values that templates cannot tell apart

Two runs of a template may differ in what their closures hold and yet agree in
all that shows. `Likeness R` says what this takes of a relation between the
values of the two runs: related values have the same outer shape and related
parts, related closures have bodies that nest as deep, and they come from the same
piece of source whenever their counterparts do. What a closure captured is left to
the relation, and so is which not-a-number of one run stands for which of the other.

Everything that the language computes from values respects such a relation: it
gives equal texts, types and verdicts, and related values. The modules on the
library and on runs build on the facts collected here.
-/

namespace Inlay

/-! ## Induction on values -/

/-- Induction on values in which the parts of lists, dictionaries and closures
are reached by membership. -/
@[elab_as_elim]
theorem Value.induction {P : Value → Prop} (integer : ∀ n, P (.integer n))
    (float : ∀ x, P (.float x)) (string : ∀ s, P (.string s)) (boolean : ∀ b, P (.boolean b))
    (list : ∀ o vs, (∀ v ∈ vs, P v) → P (.list o vs))
    (dictionary : ∀ o es, (∀ p ∈ es, P p.1 ∧ P p.2) → P (.dictionary o es))
    (closure : ∀ ps b frames, (∀ frame ∈ frames, ∀ p ∈ frame, P p.2) → P (.closure ps b frames))
    (builtin : ∀ f, P (.builtin f)) (foreign : ∀ f, P (.foreign f)) (v : Value) : P v :=
  @Value.rec P (fun vs => ∀ v ∈ vs, P v) (fun es => ∀ p ∈ es, P p.1 ∧ P p.2)
    (fun frames => ∀ frame ∈ frames, ∀ p ∈ frame, P p.2) (fun p => P p.1 ∧ P p.2)
    (fun frame => ∀ p ∈ frame, P p.2) (fun p => P p.2) integer float string boolean list dictionary
    closure builtin foreign (fun _ h => nomatch h)
    (fun _ _ hv hs => List.forall_mem_cons.mpr ⟨hv, hs⟩) (fun _ h => nomatch h)
    (fun _ _ hp hs => List.forall_mem_cons.mpr ⟨hp, hs⟩) (fun _ h => nomatch h)
    (fun _ _ hf hs => List.forall_mem_cons.mpr ⟨hf, hs⟩) (fun _ _ hk hv => ⟨hk, hv⟩)
    (fun _ h => nomatch h) (fun _ _ hp hs => List.forall_mem_cons.mpr ⟨hp, hs⟩)
    (fun _ _ hv => hv) v

/-! ## Likenesses -/

/-- Entries with related keys and related values. -/
def EntryRel (R : Value → Value → Prop) (p q : Value × Value) : Prop := R p.1 q.1 ∧ R p.2 q.2

/-- Values of one shape whose parts are related; two closures only share their
parameters, and two not-a-numbers nothing else. -/
inductive Alike (R : Value → Value → Prop) : Value → Value → Prop
  | integer (n : Int) : Alike R (.integer n) (.integer n)
  | float {x y : Binary64} (h : x.Like y) : Alike R (.float x) (.float y)
  | string (s : String) : Alike R (.string s) (.string s)
  | boolean (b : Bool) : Alike R (.boolean b) (.boolean b)
  | list (o : Origin) {vs ws : List Value} (h : List.Forall₂ R vs ws) :
      Alike R (.list o vs) (.list o ws)
  | dictionary (o : Origin) {es fs : List (Value × Value)}
      (h : List.Forall₂ (EntryRel R) es fs) : Alike R (.dictionary o es) (.dictionary o fs)
  | closure (ps : List String) (a b : Expr) (fr gr : List Frame) :
      Alike R (.closure ps a fr) (.closure ps b gr)
  | builtin (f : Function) : Alike R (.builtin f) (.builtin f)
  | foreign (f : Foreign) : Alike R (.foreign f) (.foreign f)

/-- A relation between the values of two runs that no operation of the language
can break. -/
structure Likeness (R : Value → Value → Prop) : Prop where
  alike : ∀ {v w : Value}, R v w → Alike R v w
  same : ∀ {ps qs : List String} {a a' b b' : Expr} {fr fr' gr gr' : List Frame},
    R (.closure ps a fr) (.closure ps a' fr') → R (.closure qs b gr) (.closure qs b' gr') →
      a.same b = a'.same b'
  body : ∀ {ps qs : List String} {a b : Expr} {fr gr : List Frame},
    R (.closure ps a fr) (.closure qs b gr) → a.depth = b.depth
  nan : ∀ {p p' q q' : Nat}, R (.float (.nan p)) (.float (.nan p')) →
    R (.float (.nan q)) (.float (.nan q')) → (p = q ↔ p' = q')
  integer : ∀ n : Int, R (.integer n) (.integer n)
  float : ∀ {x : Binary64}, x.isNaN = false → R (.float x) (.float x)
  string : ∀ s : String, R (.string s) (.string s)
  boolean : ∀ b : Bool, R (.boolean b) (.boolean b)
  list : ∀ {vs ws : List Value}, List.Forall₂ R vs ws →
    R (.list .template vs) (.list .template ws)
  dictionary : ∀ {es fs : List (Value × Value)}, List.Forall₂ (EntryRel R) es fs →
    R (.dictionary .template es) (.dictionary .template fs)

/-- A test that gives the same verdict on related values. -/
def Respects (R : Value → Value → Prop) (same : Value → Value → Bool) : Prop :=
  ∀ ⦃v v' w w' : Value⦄, R v v' → R w w' → same v w = same v' w'

/-! ## One run beside itself -/

/-- Lists beside themselves whose members have a property. -/
theorem forall₂_self_iff {α : Type} {S : α → Prop} {xs ys : List α} :
    List.Forall₂ (fun x y => x = y ∧ S x) xs ys ↔ xs = ys ∧ ∀ x ∈ xs, S x := by
  have hswap : (fun x y => x = y ∧ S x) = fun x y => S x ∧ x = y := by
    funext x y
    exact propext and_comm
  rw [hswap, List.forall₂_and_left, List.forall₂_eq_eq_eq, and_comm]

/-- Entries beside themselves whose keys and values have a property. -/
theorem forall₂_entries_self_iff {S : Value → Prop} {es fs : List (Value × Value)} :
    List.Forall₂ (EntryRel fun v w => v = w ∧ S v) es fs ↔
      es = fs ∧ ∀ p ∈ es, S p.1 ∧ S p.2 := by
  have hentry : (EntryRel fun v w => v = w ∧ S v) =
      fun (p q : Value × Value) => p = q ∧ S p.1 ∧ S p.2 := by
    funext p q
    rw [EntryRel, Prod.ext_iff]
    exact propext and_and_and_comm
  rw [hentry]
  exact forall₂_self_iff

/-- A property that lists and dictionaries have just when their parts do, and
that every number, text and truth value has. -/
structure Value.Hereditary (S : Value → Prop) : Prop where
  integer : ∀ n : Int, S (.integer n)
  float : ∀ x : Binary64, S (.float x)
  string : ∀ s : String, S (.string s)
  boolean : ∀ b : Bool, S (.boolean b)
  list : ∀ {o : Origin} {vs : List Value}, S (.list o vs) ↔ ∀ v ∈ vs, S v
  dictionary : ∀ {o : Origin} {es : List (Value × Value)},
    S (.dictionary o es) ↔ ∀ p ∈ es, S p.1 ∧ S p.2

/-- A value beside itself, as long as it has such a property: what is known of
two runs is known of one whose values all have it. -/
theorem Value.Hereditary.likeness {S : Value → Prop} (hS : Hereditary S) :
    Likeness fun v w => v = w ∧ S v where
  alike := by
    rintro v _ ⟨rfl, h⟩
    cases v with
    | integer n => exact .integer n
    | float x => exact .float (.refl x)
    | string s => exact .string s
    | boolean b => exact .boolean b
    | list o vs => exact .list o (forall₂_self_iff.mpr ⟨rfl, hS.list.mp h⟩)
    | dictionary o es =>
        exact .dictionary o (forall₂_entries_self_iff.mpr ⟨rfl, hS.dictionary.mp h⟩)
    | closure => exact .closure ..
    | builtin f => exact .builtin f
    | foreign f => exact .foreign f
  same := by
    rintro _ _ _ _ _ _ _ _ _ _ ⟨h, -⟩ ⟨h', -⟩
    cases h
    cases h'
    rfl
  body := by
    rintro _ _ _ _ _ _ ⟨h, -⟩
    cases h
    rfl
  nan := by
    rintro _ _ _ _ ⟨h, -⟩ ⟨h', -⟩
    cases h
    cases h'
    rfl
  integer n := ⟨rfl, hS.integer n⟩
  float _ := ⟨rfl, hS.float _⟩
  string s := ⟨rfl, hS.string s⟩
  boolean b := ⟨rfl, hS.boolean b⟩
  list h := by
    obtain ⟨rfl, hvs⟩ := forall₂_self_iff.mp h
    exact ⟨rfl, hS.list.mpr hvs⟩
  dictionary h := by
    obtain ⟨rfl, hes⟩ := forall₂_entries_self_iff.mp h
    exact ⟨rfl, hS.dictionary.mpr hes⟩

/-! ## Related lists -/

/-- What agrees on related members agrees on related lists. -/
theorem map_eq_of_forall₂ {α β γ : Type} {R : α → β → Prop} {f : α → γ} {g : β → γ}
    {xs : List α} {ys : List β} (h : List.Forall₂ R xs ys)
    (hfg : ∀ x ∈ xs, ∀ y, R x y → f x = g y) : xs.map f = ys.map g := by
  induction h with
  | nil => rfl
  | cons hxy _ ih =>
      obtain ⟨hx, hxs⟩ := List.forall_mem_cons.mp hfg
      rw [List.map_cons, List.map_cons, hx _ hxy, ih hxs]

theorem forall₂_entryRel {R : Value → Value → Prop} {es fs : List (Value × Value)} :
    List.Forall₂ (EntryRel R) es fs ↔
      List.Forall₂ R (es.map Prod.fst) (fs.map Prod.fst) ∧
        List.Forall₂ R (es.map Prod.snd) (fs.map Prod.snd) := by
  induction es generalizing fs with
  | nil => cases fs <;> simp
  | cons p es ih =>
      cases fs with
      | nil => simp
      | cons q fs =>
          simp only [List.map_cons, List.forall₂_cons, ih, EntryRel]
          tauto

/-- A search that agrees on related members finds related members. -/
theorem find?_forall₂ {α β : Type} {R : α → β → Prop} {f : α → Bool} {g : β → Bool}
    {xs : List α} {ys : List β} (h : List.Forall₂ R xs ys) (hfg : ∀ x y, R x y → f x = g y) :
    Option.Rel R (xs.find? f) (ys.find? g) := by
  induction h with
  | nil => exact .none
  | @cons x y xs ys hxy _ ih =>
      rw [List.find?_cons, List.find?_cons, ← hfg x y hxy]
      cases f x with
      | true => exact .some hxy
      | false => exact ih

theorem all_forall₂ {α β : Type} {R : α → β → Prop} {f : α → Bool} {g : β → Bool}
    {xs : List α} {ys : List β} (h : List.Forall₂ R xs ys) (hfg : ∀ x y, R x y → f x = g y) :
    xs.all f = ys.all g := by
  induction h with
  | nil => rfl
  | cons hxy _ ih => rw [List.all_cons, List.all_cons, hfg _ _ hxy, ih]

/-- Tests that agree on related members agree place by place on related lists. -/
theorem pairwise_forall₂ {R : Value → Value → Prop} {f g : Value → Value → Bool}
    {vs vs' ws ws' : List Value} (hvs : List.Forall₂ R vs vs') (hws : List.Forall₂ R ws ws')
    (h : ∀ v ∈ vs, ∀ v' w w', R v v' → R w w' → f v w = g v' w') :
    Value.pairwise f vs ws = Value.pairwise g vs' ws' := by
  induction hvs generalizing ws ws' with
  | nil => cases hws <;> rfl
  | cons hv _ ih =>
      cases hws with
      | nil => rfl
      | cons hw hws =>
          obtain ⟨hfirst, hrest⟩ := List.forall_mem_cons.mp h
          rw [Value.pairwise, Value.pairwise, hfirst _ _ _ hv hw, ih hws hrest]

namespace Likeness

variable {R : Value → Value → Prop} (hR : Likeness R)
include hR

/-! ## Types and texts -/

theorem typeName {v w : Value} (h : R v w) : v.typeName = w.typeName := by
  cases hR.alike h <;> rfl

theorem representationName {v w : Value} (h : R v w) :
    v.representationName = w.representationName := by
  cases hR.alike h with
  | list o => cases o <;> rfl
  | dictionary o => cases o <;> rfl
  | _ => rfl

omit hR in
theorem texts_eq (vs : List Value) : Value.texts vs = vs.map Value.text := by
  induction vs with
  | nil => rfl
  | cons v vs ih => rw [Value.texts, ih, List.map_cons]

omit hR in
theorem entryTexts_eq (es : List (Value × Value)) :
    Value.entryTexts es = es.map fun p => p.1.text ++ ": " ++ p.2.text := by
  induction es with
  | nil => rfl
  | cons p es ih => rw [Value.entryTexts, ih, List.map_cons]

/-- Related values render as the same text. -/
theorem text {v w : Value} (h : R v w) : v.text = w.text := by
  induction v using Value.induction generalizing w with
  | list o vs ih =>
      cases hR.alike h with
      | list _ hvs =>
          rw [Value.text, Value.text, texts_eq, texts_eq, map_eq_of_forall₂ hvs ih]
  | dictionary o es ih =>
      cases hR.alike h with
      | dictionary _ hes =>
          rw [Value.text, Value.text, entryTexts_eq, entryTexts_eq,
            map_eq_of_forall₂ hes fun p hp q hpq => ?_]
          rw [(ih p hp).1 hpq.1, (ih p hp).2 hpq.2]
  | float x =>
      cases hR.alike h with
      | float hxy => exact hxy.text
  | _ => cases hR.alike h; rfl

theorem texts {vs ws : List Value} (h : List.Forall₂ R vs ws) :
    Value.texts vs = Value.texts ws := by
  rw [texts_eq, texts_eq, map_eq_of_forall₂ h fun _ _ _ hvw => hR.text hvw]

/-- Numbers are the same key just when their counterparts are: a not-a-number
is told from another one by its payload, and counterparts keep apart what is
apart. -/
theorem same_float {x x' y y' : Binary64} (h : R (.float x) (.float x'))
    (h' : R (.float y) (.float y')) : x.same y = x'.same y' := by
  cases hR.alike h with
  | float hx =>
      cases hR.alike h' with
      | float hy =>
          cases hx with
          | number hx =>
              cases hy with
              | number => rfl
              | nan => cases x <;> first | rfl | cases hx
          | nan p p' =>
              cases hy with
              | @number y hy => cases y <;> first | rfl | cases hy
              | nan q q' => exact decide_eq_decide.mpr (hR.nan h h')

/-! ## Depth and kinds -/

omit hR in
theorem allKnown_eq (vs : List Value) : Value.allKnown vs = (vs.map Value.isKnown).all id := by
  induction vs with
  | nil => rfl
  | cons v vs ih => rw [Value.allKnown, ih]; rfl

omit hR in
theorem allEntriesKnown_eq (es : List (Value × Value)) :
    Value.allEntriesKnown es = (es.map fun p => p.1.isKnown && p.2.isKnown).all id := by
  induction es with
  | nil => rfl
  | cons p es ih => rw [Value.allEntriesKnown, ih]; rfl

theorem isKnown {v w : Value} (h : R v w) : v.isKnown = w.isKnown := by
  induction v using Value.induction generalizing w with
  | list o vs ih =>
      cases hR.alike h with
      | list _ hvs =>
          rw [Value.isKnown, Value.isKnown, allKnown_eq, allKnown_eq, map_eq_of_forall₂ hvs ih]
  | dictionary o es ih =>
      cases hR.alike h with
      | dictionary _ hes =>
          rw [Value.isKnown, Value.isKnown, allEntriesKnown_eq, allEntriesKnown_eq,
            map_eq_of_forall₂ hes fun p hp q hpq => ?_]
          rw [(ih p hp).1 hpq.1, (ih p hp).2 hpq.2]
  | _ => cases hR.alike h; rfl

omit hR in
theorem depthAll_eq (vs : List Value) : Value.depthAll vs = (vs.map Value.depth).foldr max 0 := by
  induction vs with
  | nil => rfl
  | cons v vs ih => rw [Value.depthAll, ih]; rfl

omit hR in
theorem depthEntries_eq (es : List (Value × Value)) :
    Value.depthEntries es = (es.map fun p => max p.1.depth p.2.depth).foldr max 0 := by
  induction es with
  | nil => rfl
  | cons p es ih => rw [Value.depthEntries, ih]; rfl

theorem depth {v w : Value} (h : R v w) : v.depth = w.depth := by
  induction v using Value.induction generalizing w with
  | list o vs ih =>
      cases hR.alike h with
      | list _ hvs =>
          rw [Value.depth, Value.depth, depthAll_eq, depthAll_eq, map_eq_of_forall₂ hvs ih]
  | dictionary o es ih =>
      cases hR.alike h with
      | dictionary _ hes =>
          rw [Value.depth, Value.depth, depthEntries_eq, depthEntries_eq,
            map_eq_of_forall₂ hes fun p hp q hpq => ?_]
          rw [(ih p hp).1 hpq.1, (ih p hp).2 hpq.2]
  | closure ps a fr =>
      cases hR.alike h with
      | closure => rw [Value.depth, Value.depth, hR.body h]
  | _ => cases hR.alike h; rfl

theorem depthAll {vs ws : List Value} (h : List.Forall₂ R vs ws) :
    Value.depthAll vs = Value.depthAll ws := by
  rw [depthAll_eq, depthAll_eq, map_eq_of_forall₂ h fun _ _ _ hvw => hR.depth hvw]

/-! ## Keys -/

omit hR in
theorem firstKeyFault?_eq (vs : List Value) :
    Value.firstKeyFault? vs = (vs.map Value.keyFault?).findSome? id := by
  induction vs with
  | nil => rfl
  | cons v vs ih =>
      rw [Value.firstKeyFault?, ih, List.map_cons, List.findSome?_cons]
      cases v.keyFault? <;> rfl

omit hR in
theorem firstKeyFault?_eq_none {vs : List Value} :
    Value.firstKeyFault? vs = none ↔ ∀ v ∈ vs, v.keyFault? = none := by
  rw [firstKeyFault?_eq, List.findSome?_map]
  exact List.findSome?_eq_none_iff

omit hR in
/-- The first fault among values is that of one of them. -/
theorem exists_of_firstKeyFault? {vs : List Value} {fault : KeyFault}
    (h : Value.firstKeyFault? vs = some fault) : ∃ v ∈ vs, v.keyFault? = some fault := by
  rw [firstKeyFault?_eq, List.findSome?_map] at h
  exact List.exists_of_findSome?_eq_some h

theorem keyFault? {v w : Value} (h : R v w) : v.keyFault? = w.keyFault? := by
  induction v using Value.induction generalizing w with
  | list o vs ih =>
      cases hR.alike h with
      | list _ hvs =>
          rw [Value.keyFault?, Value.keyFault?, firstKeyFault?_eq, firstKeyFault?_eq,
            map_eq_of_forall₂ hvs ih]
  | _ => cases hR.alike h; rfl

omit hR in
theorem firstHashFault?_eq (vs : List Value) :
    Value.firstHashFault? vs = (vs.map Value.hashFault?).findSome? id := by
  induction vs with
  | nil => rfl
  | cons v vs ih =>
      rw [Value.firstHashFault?, ih, List.map_cons, List.findSome?_cons]
      cases v.hashFault? <;> rfl

theorem hashFault? {v w : Value} (h : R v w) : v.hashFault? = w.hashFault? := by
  induction v using Value.induction generalizing w with
  | list o vs ih =>
      cases hR.alike h with
      | list _ hvs =>
          cases o with
          | host => rfl
          | template =>
              rw [Value.hashFault?, Value.hashFault?, firstHashFault?_eq, firstHashFault?_eq,
                map_eq_of_forall₂ hvs ih]
  | dictionary o es _ =>
      cases hR.alike h
      cases o <;> rfl
  | _ => cases hR.alike h; rfl

omit hR in
theorem sameKeys_eq (vs ws : List Value) :
    Value.sameKeys vs ws = Value.pairwise Value.sameKey vs ws := by
  induction vs generalizing ws with
  | nil => cases ws <;> rfl
  | cons v vs ih =>
      cases ws with
      | nil => rfl
      | cons w ws => rw [Value.sameKeys, Value.pairwise, ih]

/-- Two values are the same key just when their counterparts are. -/
theorem sameKey {v v' w w' : Value} (h : R v v') (h' : R w w') :
    v.sameKey w = v'.sameKey w' := by
  induction v using Value.induction generalizing v' w w' with
  | list o vs ih =>
      cases hR.alike h with
      | list _ hvs =>
          cases hR.alike h' with
          | list _ hws =>
              rw [Value.sameKey, Value.sameKey, sameKeys_eq, sameKeys_eq]
              exact pairwise_forall₂ hvs hws fun v hv _ _ _ => ih v hv
          | _ => rfl
  | closure ps b frames _ =>
      cases hR.alike h with
      | closure =>
          cases hR.alike h' with
          | closure => rw [Value.sameKey, Value.sameKey, hR.same h h']
          | _ => rfl
  | float x =>
      cases hR.alike h with
      | float _ =>
          cases hR.alike h' with
          | float _ => exact hR.same_float h h'
          | _ => rfl
  | _ => cases hR.alike h; cases hR.alike h' <;> rfl

theorem sameKey_respects : Respects R Value.sameKey :=
  fun _ _ _ _ h h' => hR.sameKey h h'

omit hR in
theorem hashEqualAll_eq (vs ws : List Value) :
    Value.hashEqualAll vs ws = Value.pairwise Value.hashEqual vs ws := by
  induction vs generalizing ws with
  | nil => cases ws <;> rfl
  | cons v vs ih =>
      cases ws with
      | nil => rfl
      | cons w ws => rw [Value.hashEqualAll, Value.pairwise, ih]

omit hR in
theorem integerEqualsFloat_like {x y : Binary64} (h : x.Like y) (n : Int) :
    Value.integerEqualsFloat n x = Value.integerEqualsFloat n y := by
  unfold Value.integerEqualsFloat
  rw [h.position?]

theorem hashEqual {v v' w w' : Value} (h : R v v') (h' : R w w') :
    v.hashEqual w = v'.hashEqual w' := by
  induction v using Value.induction generalizing v' w w' with
  | list o vs ih =>
      cases hR.alike h with
      | list _ hvs =>
          cases hR.alike h' with
          | list _ hws =>
              rw [Value.hashEqual, Value.hashEqual, hashEqualAll_eq, hashEqualAll_eq,
                pairwise_forall₂ hvs hws fun v hv _ _ _ => ih v hv]
          | _ => rfl
  | closure ps b frames _ =>
      cases hR.alike h with
      | closure =>
          cases hR.alike h' with
          | closure => rw [Value.hashEqual, Value.hashEqual, hR.same h h']
          | _ => rfl
  | float x =>
      cases hR.alike h with
      | float hx =>
          cases hR.alike h' with
          | float _ => exact hR.same_float h h'
          | integer | boolean => exact integerEqualsFloat_like hx _
          | _ => rfl
  | integer | boolean =>
      cases hR.alike h
      cases hR.alike h' with
      | float hy => exact integerEqualsFloat_like hy _
      | _ => rfl
  | _ => cases hR.alike h; cases hR.alike h' <;> rfl

theorem hashEqual_respects : Respects R Value.hashEqual :=
  fun _ _ _ _ h h' => hR.hashEqual h h'

theorem looselyEqual {v v' w w' : Value} (h : R v v') (h' : R w w') :
    v.looselyEqual w = v'.looselyEqual w' := by
  have hhash := hR.hashEqual h h'
  cases hR.alike h with
  | float hx =>
      cases hR.alike h' with
      | float hy => exact hx.equals hy
      | _ => exact hhash
  | _ => exact hhash

/-! ## Dictionaries -/

omit hR in
theorem map_snd {x y : Option (Value × Value)} (h : Option.Rel (EntryRel R) x y) :
    Option.Rel R (x.map Prod.snd) (y.map Prod.snd) := by
  cases h with
  | none => exact .none
  | some hpq => exact .some hpq.2

theorem get? {es fs : List (Value × Value)} {k k' : Value}
    (hes : List.Forall₂ (EntryRel R) es fs) (hk : R k k') :
    Option.Rel R (Dictionary.get? es k) (Dictionary.get? fs k') :=
  map_snd (find?_forall₂ hes fun _ _ hpq => hR.sameKey hpq.1 hk)

theorem getName? (o : Origin) {es fs : List (Value × Value)} (name : String)
    (hes : List.Forall₂ (EntryRel R) es fs) :
    Option.Rel R (Dictionary.getName? o es name) (Dictionary.getName? o fs name) := by
  cases o with
  | template => exact hR.get? hes (hR.string name)
  | host => exact map_snd (find?_forall₂ hes fun _ _ hpq => hR.hashEqual hpq.1 (hR.string name))

theorem lookup (o : Origin) {es fs : List (Value × Value)} {k k' : Value}
    (hes : List.Forall₂ (EntryRel R) es fs) (hk : R k k') :
    (∃ fault, Dictionary.lookup o es k = .error fault ∧
      Dictionary.lookup o fs k' = .error fault) ∨
    ∃ found found', Dictionary.lookup o es k = .ok found ∧
      Dictionary.lookup o fs k' = .ok found' ∧ Option.Rel R found found' := by
  unfold Dictionary.lookup
  rw [← hR.keyFault? hk]
  cases k.keyFault? with
  | some fault => exact .inl ⟨fault, rfl, rfl⟩
  | none =>
      refine .inr ?_
      cases o with
      | template => exact ⟨_, _, rfl, rfl, hR.get? hes hk⟩
      | host =>
          refine ⟨_, _, rfl, rfl, map_snd (find?_forall₂ hes fun p q hpq => ?_)⟩
          dsimp only
          rw [hR.looselyEqual hpq.1 hk, hR.sameKey hpq.1 hk]

section

variable {same : Value → Value → Bool} (hsame : Respects R same)
include hsame

omit hR in
theorem put {es fs : List (Value × Value)} {k k' v v' : Value}
    (hes : List.Forall₂ (EntryRel R) es fs) (hk : R k k') (hv : R v v') :
    List.Forall₂ (EntryRel R) (Dictionary.put same k v es) (Dictionary.put same k' v' fs) := by
  induction hes with
  | nil => exact .cons ⟨hk, hv⟩ .nil
  | @cons p q es fs hpq hes ih =>
      obtain ⟨key, value⟩ := p
      obtain ⟨key', value'⟩ := q
      rw [Dictionary.put, Dictionary.put, hsame hpq.1 hk]
      split
      · exact .cons ⟨hpq.1, hv⟩ hes
      · exact .cons hpq ih

omit hR in
theorem putAll {es fs : List (Value × Value)} (hes : List.Forall₂ (EntryRel R) es fs) :
    List.Forall₂ (EntryRel R) (Dictionary.putAll same es) (Dictionary.putAll same fs) := by
  have hfold : ∀ {ds ds' : List (Value × Value)}, List.Forall₂ (EntryRel R) ds ds' →
      List.Forall₂ (EntryRel R) (es.foldl (fun d p => Dictionary.put same p.1 p.2 d) ds)
        (fs.foldl (fun d p => Dictionary.put same p.1 p.2 d) ds') := by
    induction hes with
    | nil => exact id
    | cons hpq _ ih => exact fun hds => ih (put hsame hds hpq.1 hpq.2)
  exact hfold .nil

end

/-- A host's dictionary of related entries, or the same fault. -/
theorem hostEntries {es fs : List (Value × Value)} (hes : List.Forall₂ (EntryRel R) es fs) :
    (∃ fault, Dictionary.hostEntries es = .error fault ∧
      Dictionary.hostEntries fs = .error fault) ∨
    ∃ ds ds', Dictionary.hostEntries es = .ok ds ∧ Dictionary.hostEntries fs = .ok ds' ∧
      List.Forall₂ (EntryRel R) ds ds' := by
  have hfaults : Value.firstHashFault? (es.map Prod.fst) =
      Value.firstHashFault? (fs.map Prod.fst) := by
    have hkeys := (forall₂_entryRel.mp hes).1
    rw [firstHashFault?_eq, firstHashFault?_eq,
      map_eq_of_forall₂ hkeys fun _ _ _ hk => hR.hashFault? hk]
  unfold Dictionary.hostEntries
  rw [hfaults]
  split
  · exact .inl ⟨_, rfl, rfl⟩
  · exact .inr ⟨_, _, rfl, rfl, putAll hR.hashEqual_respects hes⟩

/-! ## Equality -/

/-- Two values are equal in a template just when their counterparts are. -/
theorem equalWithin (bound : Nat) {v v' w w' : Value} (h : R v v') (h' : R w w') :
    Value.equalWithin bound v w = Value.equalWithin bound v' w' := by
  induction bound generalizing v v' w w' with
  | zero =>
      have hloose := hR.looselyEqual h h'
      cases hR.alike h <;> cases hR.alike h' <;> first | rfl | exact hloose
  | succ bound ih =>
      have hloose := hR.looselyEqual h h'
      cases hR.alike h with
      | list o hvs =>
          cases hR.alike h' with
          | list o' hws =>
              rw [Value.equalWithin, Value.equalWithin]
              exact pairwise_forall₂ hvs hws fun _ _ _ _ _ hv hw => ih hv hw
          | boolean => rfl
          | _ => exact hloose
      | dictionary o hes =>
          cases hR.alike h' with
          | dictionary o' hfs =>
              rw [Value.equalWithin, Value.equalWithin, hes.length_eq, hfs.length_eq]
              congr 1
              refine all_forall₂ hes fun p q hpq => ?_
              dsimp only
              rcases hR.lookup o' hfs hpq.1 with ⟨fault, hp, hq⟩ | ⟨found, found', hp, hq, hrel⟩
              · rw [hp, hq]
              · rw [hp, hq]
                cases hrel with
                | none => rfl
                | some hfound => exact ih hfound hpq.2
          | boolean => rfl
          | _ => exact hloose
      | _ => cases hR.alike h' <;> first | rfl | exact hloose

theorem equal {v v' w w' : Value} (h : R v v') (h' : R w w') : v.equal w = v'.equal w' := by
  unfold Value.equal
  rw [hR.depth h, hR.equalWithin _ h h']

end Likeness

end Inlay
