import Inlay.Proofs.Registrations
import Inlay.Proofs.Scopes
import Mathlib.Logic.Function.Basic

/-!
# The views of a scope

A scope is asked in three ways: what a name means, whether a name is bound and which
names there are. Each of them walks over the frames on its own. All three say the same
as one mapping without any frames (`Scope.flattened`): the bindings of the outermost
frame, updated with those of each inner frame in turn (`Scope.views_flattened`).

That a child leaves the scope around it as it was says something in a session only,
where scopes have names. What one request can do to them is said once
(`Session.step_scopes`): it leaves them all alone, or it gives one name to a new scope.
So a name stands for the same scope until it is given away, and each named scope is one
that was built frame by frame (`Session.named_built`).
-/

namespace Inlay

namespace Scope

/-! ## Chains of bindings -/

/-- How a scope is built, with the bindings that were given for each of its frames,
innermost first. A mapping of names to texts gives the same as properties of these
names. -/
inductive Built : Scope → List (List (String × Value)) → Prop
  | root (bindings : List (String × Value)) : Built (.root bindings) [bindings]
  | ofProperties (properties : List Property) :
      Built (.ofProperties properties) [properties.map fun p => (p.name, .string p.value)]
  | child {scope : Scope} {chain : List (List (String × Value))} (h : Built scope chain)
      (bindings : List (String × Value)) : Built (scope.child bindings) (bindings :: chain)

/-- A mapping updated with bindings, one after another. -/
def updated (m : String → Option Value) (bindings : List (String × Value)) :
    String → Option Value :=
  bindings.foldl (fun m b => Function.update m b.1 (some b.2)) m

/-- The one mapping that a chain comes to: the bindings of the outermost frame, updated
with those of each inner frame in turn. -/
def flattened (chain : List (List (String × Value))) : String → Option Value :=
  chain.foldr (fun bindings m => updated m bindings) fun _ => none

/-- The binding of a name in the innermost frame that has one. Of several bindings that
were given for one frame the last counts. -/
def Innermost (chain : List (List (String × Value))) (n : String) (v : Value) : Prop :=
  ∃ inner before after outer, chain = inner ++ (before ++ (n, v) :: after) :: outer ∧
    (∀ bindings ∈ inner, ∀ b ∈ bindings, b.1 ≠ n) ∧ ∀ b ∈ after, b.1 ≠ n

section

variable {chain : List (List (String × Value))} {bindings : List (String × Value)}
  {n : String} {v : Value}

theorem updated_apply (m : String → Option Value) (bindings : List (String × Value))
    (n : String) : updated m bindings n = (bindings.reverse.lookup n).or (m n) := by
  induction bindings generalizing m with
  | nil => rfl
  | cons b rest ih =>
      have hlookup : [b].lookup n = if n = b.1 then some b.2 else none :=
        Frame.get?_cons b.1 b.2 [] n
      have hfirst : Function.update m b.1 (some b.2) n = ([b].lookup n).or (m n) := by
        rw [Function.update_apply, hlookup]
        split <;> rfl
      rw [List.reverse_cons, List.lookup_append, Option.or_assoc, ← hfirst]
      exact ih _

theorem flattened_cons (bindings : List (String × Value)) (chain : List (List (String × Value)))
    (n : String) :
    flattened (bindings :: chain) n = (bindings.reverse.lookup n).or (flattened chain n) :=
  updated_apply _ bindings n

/-- A name means in a scope what it means in the one mapping. -/
theorem Built.lookup_eq {scope : Scope} (h : Built scope chain) (n : String) :
    scope.lookup n = flattened chain n := by
  induction h with
  | root bindings => rw [lookup_root, flattened_cons]; exact Option.or_none.symm
  | ofProperties properties =>
      rw [Scope.ofProperties, lookup_root, flattened_cons]
      exact Option.or_none.symm
  | child h bindings ih => rw [lookup_child, flattened_cons, ih]

theorem reverse_lookup_eq_some_iff :
    bindings.reverse.lookup n = some v ↔
      ∃ before after, bindings = before ++ (n, v) :: after ∧ ∀ b ∈ after, b.1 ≠ n := by
  rw [List.lookup_eq_some_iff]
  constructor
  · rintro ⟨last, first, hsplit, hlast⟩
    refine ⟨first.reverse, last.reverse, ?_, fun b hb => ?_⟩
    · rw [← List.reverse_reverse bindings, hsplit]
      simp
    · exact (bne_iff_ne.mp (hlast b (List.mem_reverse.mp hb))).symm
  · rintro ⟨before, after, rfl, hafter⟩
    refine ⟨after.reverse, before.reverse, by simp, fun b hb => ?_⟩
    exact bne_iff_ne.mpr (hafter b (List.mem_reverse.mp hb)).symm

theorem reverse_lookup_eq_none_iff :
    bindings.reverse.lookup n = none ↔ ∀ b ∈ bindings, b.1 ≠ n := by
  simp only [List.lookup_eq_none_iff, List.mem_reverse, bne_iff_ne, ne_comm]

/-- The one mapping has the bindings that are the innermost. -/
theorem flattened_eq_some_iff : flattened chain n = some v ↔ Innermost chain n v := by
  induction chain with
  | nil =>
      refine ⟨nofun, fun ⟨inner, _, _, _, hsplit, _⟩ => ?_⟩
      cases inner <;> cases hsplit
  | cons bindings chain ih =>
      rw [flattened_cons, Option.or_eq_some_iff, ih, reverse_lookup_eq_some_iff,
        reverse_lookup_eq_none_iff]
      constructor
      · rintro (⟨before, after, rfl, hafter⟩ | ⟨hnone, hfound⟩)
        · exact ⟨[], before, after, chain, rfl, List.forall_mem_nil _, hafter⟩
        · obtain ⟨inner, before, after, outer, rfl, hinner, hafter⟩ := hfound
          exact ⟨bindings :: inner, before, after, outer, rfl,
            List.forall_mem_cons.mpr ⟨hnone, hinner⟩, hafter⟩
      · rintro ⟨inner, before, after, outer, hsplit, hinner, hafter⟩
        cases inner with
        | nil => exact .inl ⟨before, after, (List.cons.inj hsplit).1, hafter⟩
        | cons first inner =>
            obtain ⟨rfl, rfl⟩ := List.cons.inj hsplit
            obtain ⟨hfirst, hinner⟩ := List.forall_mem_cons.mp hinner
            exact .inr ⟨hfirst, inner, before, after, outer, rfl, hinner, hafter⟩

end

/-! ## The walks over the frames -/

theorem isSome_get?_iff {frame : Frame} {n : String} :
    (frame.get? n).isSome = true ↔ n ∈ frame.names := by
  unfold Frame.get? Frame.names
  rw [List.lookup_isSome_iff, List.mem_map]
  simp only [beq_iff_eq, @eq_comm _ n]

theorem binds_iff {scope : Scope} {n : String} :
    scope.binds n = true ↔ ∃ frame ∈ scope.frames, n ∈ frame.names := by
  unfold binds
  rw [List.any_eq_true]
  simp only [List.contains_iff_mem]

/-- A name means something just if it is bound. -/
theorem isSome_lookup_iff {scope : Scope} {n : String} :
    (scope.lookup n).isSome = true ↔ scope.binds n = true := by
  unfold lookup
  rw [List.isSome_findSome?, List.any_eq_true, binds_iff]
  simp only [isSome_get?_iff]

theorem mem_foldl_seen (names seen : List String) {n : String} :
    n ∈ names.foldl (fun seen name => if seen.contains name then seen else seen ++ [name]) seen ↔
      n ∈ seen ∨ n ∈ names := by
  induction names generalizing seen with
  | nil => simp
  | cons name rest ih =>
      have hfirst : n ∈ (if seen.contains name then seen else seen ++ [name]) ↔
          n ∈ seen ∨ n = name := by
        split
        · rename_i hseen
          refine ⟨.inl, ?_⟩
          rintro (h | rfl)
          · exact h
          · exact List.contains_iff_mem.mp hseen
        · simp
      rw [List.foldl_cons, ih, hfirst, List.mem_cons, or_assoc]

theorem nodup_foldl_seen (names : List String) {seen : List String} (h : seen.Nodup) :
    (names.foldl (fun seen name => if seen.contains name then seen else seen ++ [name])
      seen).Nodup := by
  induction names generalizing seen with
  | nil => exact h
  | cons name rest ih =>
      rw [List.foldl_cons]
      refine ih ?_
      split
      · exact h
      · rename_i hnew
        refine List.nodup_append.mpr ⟨h, List.nodup_singleton _, fun n hn m hm heq => hnew ?_⟩
        rw [← List.mem_singleton.mp hm, ← heq]
        exact List.contains_iff_mem.mpr hn

theorem nodup_names (scope : Scope) : scope.names.Nodup := nodup_foldl_seen _ .nil

/-- The names are those that are bound. -/
theorem mem_names_iff {scope : Scope} {n : String} : n ∈ scope.names ↔ scope.binds n = true := by
  unfold names
  rw [mem_foldl_seen, binds_iff, List.mem_flatMap]
  exact or_iff_right List.not_mem_nil

end Scope

/-! ## Scopes with a name -/

namespace Session

/-- The scope that a request asks for, and the name that it is to have. -/
inductive Asks (s : Session) : Request → String → Scope → Prop
  | root (id : String) (bindings : List (String × Value)) :
      Asks s (.scope id bindings none) id (.root bindings)
  | child {parent : String} {scope : Scope} (h : s.scopes.lookup parent = some scope)
      (id : String) (bindings : List (String × Value)) :
      Asks s (.scope id bindings (some parent)) id (scope.child bindings)

/-- What is answered about a named scope is what a mapping says. -/
structure Answers (machine : Machine) (s : Session) (id : String) (m : String → Option Value) :
    Prop where
  lookup : ∀ clock n, s.step machine clock (.lookup id n) =
    (match m n with
      | some v => .ok (.value v)
      | none => .error (.notBound n), s)
  binds : ∀ clock n, s.step machine clock (.binds id n) = (.ok (.boolean (m n).isSome), s)
  names : ∀ clock, ∃ names, s.step machine clock (.scopeNames id) = (.ok (.texts names), s) ∧
    names.Nodup ∧ ∀ n, n ∈ names ↔ (m n).isSome = true

theorem lookup_keep {α : Type} (id : String) (a : α) (named : List (String × α)) (x : String) :
    (keep id a named).lookup x = if x = id then some a else named.lookup x := by
  unfold keep
  rw [List.lookup_cons]
  split
  · rename_i heq
    rw [if_pos (beq_iff_eq.mp heq)]
  · rename_i hne
    have hx : x ≠ id := ne_of_beq_false hne
    rw [if_neg hx]
    induction named with
    | nil => rfl
    | cons p rest ih =>
        obtain ⟨n, b⟩ := p
        rw [List.filter_cons, List.lookup_cons]
        by_cases hn : n = id
        · -- an entry that is dropped is none that was asked for
          subst hn
          rw [if_neg (by simp), ih, hne]
        · rw [if_pos (bne_iff_ne.mpr hn), List.lookup_cons, ih]

section

variable {s s' : Session} {id : String} {scope : Scope}

theorem find_eq_ok_iff {α : Type} {named : List (String × α)} {a : α} :
    find named id = .ok a ↔ named.lookup id = some a := by
  unfold find
  cases named.lookup id with
  | none => exact ⟨nofun, nofun⟩
  | some b => rw [Except.ok.injEq, Option.some.injEq]

/-- An answer leaves the named scopes alone, or it gives one name to the scope that the
request asks for. -/
theorem answer_scopes {machine : Machine} {request : Request} {reply : Reply}
    (h : s.answer machine request = .ok (reply, s')) :
    s'.scopes = s.scopes ∨
      ∃ id scope, s.Asks request id scope ∧ s'.scopes = keep id scope s.scopes := by
  cases request with
  | scope id bindings parent =>
      right
      cases parent with
      | none =>
          cases h
          exact ⟨id, _, .root id bindings, rfl⟩
      | some parent =>
          obtain ⟨_, hchild, h⟩ := bind_ok.mp h
          obtain ⟨scope, hfind, rfl⟩ := exists_of_map_eq_ok hchild
          cases h
          exact ⟨id, _, .child (find_eq_ok_iff.mp hfind) id bindings, rfl⟩
  | registry | names | has | list | binds | scopeNames | isRoot | frames | text | template =>
      obtain ⟨_, -, h⟩ := bind_ok.mp h
      cases h
      exact .inl rfl
  | register | provide | get | arity | equal | evaluator =>
      obtain ⟨_, -, h⟩ := bind_ok.mp h
      obtain ⟨_, -, h⟩ := bind_ok.mp h
      cases h
      exact .inl rfl
  | add =>
      obtain ⟨_, -, h⟩ := bind_ok.mp h
      obtain ⟨_, -, h⟩ := bind_ok.mp h
      obtain ⟨_, -, h⟩ := bind_ok.mp h
      obtain ⟨_, -, h⟩ := bind_ok.mp h
      cases h
      exact .inl rfl
  | lookup id name =>
      obtain ⟨scope, -, h⟩ := bind_ok.mp h
      split at h <;> cases h
      exact .inl rfl
  | calls =>
      cases h
      exact .inl rfl
  | templateRender | evaluate => cases h

theorem Evaluated.scopes (h : s.Evaluated s') : s'.scopes = s.scopes := by
  obtain ⟨_, _, rfl⟩ := h
  rfl

/-- What one request does to the named scopes: it leaves them alone, or it gives one
name to the scope that it asks for. -/
theorem step_scopes (machine : Machine) (clock : Int) (s : Session) (request : Request) :
    (s.step machine clock request).2.scopes = s.scopes ∨
      ∃ id scope, s.Asks request id scope ∧
        (s.step machine clock request).2.scopes = keep id scope s.scopes := by
  rcases step_cases machine clock s request with hevaluated | hanswer
  · exact .inl hevaluated.scopes
  · rw [hanswer]
    cases h : s.answer machine request with
    | error fault => exact .inl rfl
    | ok p => exact answer_scopes h

/-! ## Runs -/

variable (machine : Machine)

/-- A name stands for the same scope until a request gives it to another. -/
theorem after_lookup (later : List (Int × Request))
    (h : ∀ p ∈ later, ∀ bindings parent, p.2 ≠ .scope id bindings parent) :
    (s.after machine later).scopes.lookup id = s.scopes.lookup id := by
  induction later generalizing s with
  | nil => rfl
  | cons p rest ih =>
      obtain ⟨hp, hrest⟩ := List.forall_mem_cons.mp h
      refine (ih hrest).trans ?_
      rcases step_scopes machine p.1 s p.2 with hsame | ⟨id', scope, hasks, hkeep⟩
      · rw [hsame]
      · -- the name that is given is another one
        have hid : id ≠ id' := by
          rintro rfl
          generalize p.2 = request at hasks hp
          cases hasks <;> exact hp _ _ rfl
        rw [hkeep, lookup_keep, if_neg hid]

/-- Every named scope is built frame by frame. -/
def NamedBuilt (s : Session) : Prop :=
  ∀ id scope, s.scopes.lookup id = some scope → ∃ chain, scope.Built chain

theorem NamedBuilt.step (hs : s.NamedBuilt) (clock : Int) (request : Request) :
    (s.step machine clock request).2.NamedBuilt := by
  intro id scope hscope
  rcases step_scopes machine clock s request with hsame | ⟨id', scope', hasks, hkeep⟩
  · exact hs id scope (hsame ▸ hscope)
  · rw [hkeep, lookup_keep] at hscope
    split at hscope
    · obtain rfl := Option.some.inj hscope
      cases hasks with
      | root id bindings => exact ⟨_, .root bindings⟩
      | child hparent id bindings =>
          obtain ⟨chain, hbuilt⟩ := hs _ _ hparent
          exact ⟨_, hbuilt.child bindings⟩
    · exact hs id scope hscope

/-- Whatever is asked of a session, each of its named scopes was built frame by frame. -/
theorem named_built (requests : List (Int × Request)) :
    (start.after machine requests).NamedBuilt := by
  have hrun : ∀ {s : Session}, s.NamedBuilt → (s.after machine requests).NamedBuilt := by
    induction requests with
    | nil => exact id
    | cons p rest ih => exact fun hs => ih (hs.step machine p.1 p.2)
  exact hrun nofun

/-- What is answered about a scope with a name is what the one mapping of its bindings
says. -/
theorem answers_flattened {chain : List (List (String × Value))}
    (hscope : s.scopes.lookup id = some scope) (hbuilt : scope.Built chain) :
    s.Answers machine id (Scope.flattened chain) where
  lookup clock n := by
    change s.settle (s.answer machine _) = _
    rw [answer, find_eq_ok_iff.mpr hscope, ← hbuilt.lookup_eq]
    change s.settle (match scope.lookup n with
      | some v => .ok (.value v, s)
      | none => .error (.notBound n)) = _
    cases scope.lookup n <;> rfl
  binds clock n := by
    change s.settle (s.answer machine _) = _
    rw [answer, find_eq_ok_iff.mpr hscope, ← hbuilt.lookup_eq,
      Bool.eq_iff_iff.mpr Scope.isSome_lookup_iff]
    rfl
  names clock := by
    refine ⟨scope.names.mergeSort fun a b => decide (a ≤ b), ?_, ?_, fun n => ?_⟩
    · change s.settle (s.answer machine _) = _
      rw [answer, find_eq_ok_iff.mpr hscope]
      rfl
    · exact (List.mergeSort_perm _ _).nodup_iff.mpr scope.nodup_names
    · rw [List.mem_mergeSort, Scope.mem_names_iff, ← Scope.isSome_lookup_iff, hbuilt.lookup_eq]

end

end Session

/-- All views of a scope agree, in whatever way it was built. A name means its binding
in the innermost frame that has one, which is what it means in the one mapping of all
bindings; it means something just if it is bound, and just if it is one of the names.
Nothing that happens later changes that: whatever else a session is asked, to make
children of the scope among it, as long as the scope has its name, the name stands for
just this scope, and what is answered about it is what the one mapping says. -/
theorem Scope.views_flattened {scope : Scope} {chain : List (List (String × Value))}
    (hbuilt : scope.Built chain) :
    (∀ n v, scope.lookup n = some v ↔ Innermost chain n v) ∧
    (∀ n, scope.lookup n = flattened chain n) ∧
    (∀ n, (scope.lookup n).isSome = true ↔ scope.binds n = true) ∧
    (∀ n, scope.binds n = true ↔ n ∈ scope.names) ∧
    scope.names.Nodup ∧
    ∀ (machine : Machine) (s : Session) (id : String) (later : List (Int × Request)),
      s.scopes.lookup id = some scope →
      (∀ p ∈ later, ∀ bindings parent, p.2 ≠ .scope id bindings parent) →
      (s.after machine later).scopes.lookup id = some scope ∧
      s.Answers machine id (flattened chain) ∧
      (s.after machine later).Answers machine id (flattened chain) := by
  refine ⟨fun n v => ?_, hbuilt.lookup_eq, fun n => isSome_lookup_iff,
    fun n => mem_names_iff.symm, scope.nodup_names, fun machine s id later hscope hlater => ?_⟩
  · rw [hbuilt.lookup_eq, flattened_eq_some_iff]
  · have hafter := (Session.after_lookup machine later hlater).trans hscope
    exact ⟨hafter, Session.answers_flattened machine hscope hbuilt,
      Session.answers_flattened machine hafter hbuilt⟩

/-- A scope of three frames, in which an inner frame hides one of two properties, and a
child of it that hides the other. -/
theorem Scope.views_hidden :
    let properties : List Property := [⟨"x", "1"⟩, ⟨"y", "2"⟩, ⟨"x", "3"⟩]
    let scope := ((Scope.ofProperties properties).child [("y", .integer 5)]).child []
    let machine : Machine := ⟨Host.none, .usual, .usual⟩
    let s := Session.start.after machine
      [(0, .scope "a" (properties.map fun p => (p.name, .string p.value)) none),
        (0, .scope "b" [("y", .integer 5)] (some "a")), (0, .scope "c" [] (some "b"))]
    let s' := s.after machine [(0, .scope "d" [("x", .boolean true)] (some "c"))]
    scope.lookup "x" = some (.string "3") ∧ scope.lookup "y" = some (.integer 5) ∧
    "y" ∈ scope.names ∧ scope.lookup "z" = none ∧
    s.scopes.lookup "c" = some scope ∧ s'.scopes.lookup "c" = some scope ∧
    (s'.step machine 0 (.lookup "c" "x")).1 = .ok (.value (.string "3")) ∧
    (s'.step machine 0 (.lookup "d" "x")).1 = .ok (.value (.boolean true)) := by
  intro properties scope machine s s'
  have hbuilt : scope.Built [[], [("y", .integer 5)],
      properties.map fun p => (p.name, .string p.value)] :=
    ((Built.ofProperties properties).child _).child _
  have hscope : s.scopes.lookup "c" = some scope := rfl
  obtain ⟨hinnermost, hflattened, hbinds, hnames, -, hsession⟩ := views_flattened hbuilt
  obtain ⟨hkept, -, hanswers⟩ := hsession machine s "c"
    [(0, .scope "d" [("x", .boolean true)] (some "c"))] hscope (by simp)
  have hx : scope.lookup "x" = some (.string "3") := (hinnermost "x" _).mpr
    ⟨[[], [("y", .integer 5)]], [("x", .string "1"), ("y", .string "2")], [], [], rfl,
      by simp, by simp⟩
  have hy : scope.lookup "y" = some (.integer 5) :=
    (hinnermost "y" _).mpr ⟨[[]], [], [], [_], rfl, by simp, by simp⟩
  refine ⟨hx, hy, (hnames "y").mp ((hbinds "y").mp (by rw [hy]; rfl)), ?_, hscope, hkept, ?_, rfl⟩
  · exact hflattened "z"
  · rw [hanswers.lookup, ← hflattened, hx]

end Inlay
