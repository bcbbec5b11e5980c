import Inlay.Evaluation
import Inlay.Proofs.LibraryLikeness
import Inlay.Proofs.Scopes

/-!
# Two runs side by side

`AgreeFrom` says of two evaluations that from related records they come to
related results, or to related errors, and leave related records; `Agree` is
the case of one and the same record. It is kept by sequencing, and by everything
that evaluation does with values outside of expressions and closures: members,
indices and calls of the library. A theorem about two runs adds what happens to
the expressions themselves.

Errors are related by any `E` that accepts the same cause at the two places
that a node has in the two runs (`Placed`), records by any relation that calls of the
library keep in pace (`Pace`).

Each run has a stack. They come to its end together if it is the same stack. If the
second run has more of it, the first may come to its end alone, and nothing is said of
the second from there on; whether that is allowed is part of the `Course`.
-/

namespace Inlay

/-! ## The library's routines -/

/-- Whether a routine is one of the library's and not a host's. -/
def Routine.isStandard : Routine → Bool
  | .standard _ => true
  | .host _ => false

theorem Routine.exists_of_isStandard {r : Routine} (h : r.isStandard = true) :
    ∃ routine, r = .standard routine := by
  cases r with
  | standard routine => exact ⟨routine, rfl⟩
  | host name => cases h

/-- Every function of the library has a routine of its own. -/
theorem registry_standard :
    ∀ f ∈ Library.registry.functions, ∃ routine, f.routine = .standard routine := by
  have hall : (Library.registry.functions.all fun f => f.routine.isStandard) = true := rfl
  exact fun f hf => Routine.exists_of_isStandard (List.all_eq_true.mp hall f hf)

/-- A name without a meaning outside of scopes: no function has it, and it is
none of the two constants. -/
structure Context.Unknown (context : Context) (x : String) : Prop where
  unregistered : context.registry.find? x = none
  notTrue : x ≠ "true"
  notFalse : x ≠ "false"

/-! ## Hosts -/

/-- Related outcomes of a routine of the host. -/
inductive HostOutcomeRel (R : Value → Value → Prop) : HostOutcome → HostOutcome → Prop
  | value {v w : Value} (h : R v w) : HostOutcomeRel R (.value v) (.value w)
  | fault (className text : String) :
      HostOutcomeRel R (.fault className text) (.fault className text)
  | stackExhausted : HostOutcomeRel R .stackExhausted .stackExhausted

/-- Replies with related outcomes and the same note. -/
structure HostReply.Related (R : Value → Value → Prop) (r r' : HostReply) : Prop where
  outcome : HostOutcomeRel R r.outcome r'.outcome
  note : r.note = r'.note

namespace Evaluation

/-! ## Sequences -/

theorem bind_eq {α β : Type} (m : Evaluated α) (f : α → Evaluated β) (record : Record) :
    (m >>= f) record = match m record with
      | (.ok a, r) => f a r
      | (.error h, r) => (.error h, r) := by
  change (match m record with | (x, r) => ExceptT.bindCont f x r) = _
  obtain ⟨x, r⟩ := m record
  cases x <;> rfl

theorem exhausted_bind {α β : Type} (f : α → Evaluated β) :
    (throw .stackExhausted : Evaluated α) >>= f = throw .stackExhausted := rfl

theorem renderAllOn_append (stack : Stack) (context : Context) (s : Scope) (es cs : List Expr) :
    renderAllOn stack context s (es ++ cs) = do
      let x ← renderAllOn stack context s es
      let y ← renderAllOn stack context s cs
      return x ++ y := by
  induction es with
  | nil =>
      rw [List.nil_append, renderAllOn, pure_bind]
      simp only [String.empty_append, bind_pure]
  | cons e es ih =>
      rw [List.cons_append, renderAllOn, renderAllOn, ih]
      simp only [bind_assoc, pure_bind, String.append_assoc]

theorem renderAllOn_string (stack : Stack) (context : Context) (s : Scope) (l : Location)
    (x : String) (cs : List Expr) :
    renderAllOn stack context s (.string l x :: cs) = do
      stack.require .text 0
      let y ← renderAllOn stack context s cs
      return x ++ y := by
  rw [renderAllOn, evalOn, pure_bind]
  rfl

/-! ## Agreement -/

/-- How two evaluations end: with related results, or both early and for
related errors. -/
inductive Ending {α β : Type} (E : RenderError → RenderError → Prop) (P : α → β → Prop) :
    Except Halt α → Except Halt β → Prop
  | value {a : α} {b : β} (h : P a b) : Ending E P (.ok a) (.ok b)
  | error {e e' : RenderError} (h : E e e') : Ending E P (.error (.error e)) (.error (.error e'))
  | stackExhausted : Ending E P (.error .stackExhausted) (.error .stackExhausted)

namespace Ending

variable {α β : Type} {E : RenderError → RenderError → Prop} {P : α → β → Prop}
  {x : Except Halt α} {y : Except Halt β}

theorem exists_of_ok {a : α} (h : Ending E P x y) (hx : x = .ok a) : ∃ b, y = .ok b ∧ P a b := by
  subst hx
  cases h with
  | value hab => exact ⟨_, rfl, hab⟩

theorem exists_of_error {e : RenderError} (h : Ending E P x y) (hx : x = .error (.error e)) :
    ∃ e', y = .error (.error e') ∧ E e e' := by
  subst hx
  cases h with
  | error he => exact ⟨_, rfl, he⟩

theorem of_stackExhausted (h : Ending E P x y) (hx : x = .error .stackExhausted) :
    y = .error .stackExhausted := by
  subst hx
  cases h with
  | stackExhausted => rfl

end Ending

/-- How two runs go side by side: which records of theirs are related, and whether the
first may come to the end of its stack alone. -/
structure Course where
  records : Record → Record → Prop
  alone : Prop

/-- From related records two evaluations end alike and leave related records, unless
the first comes to the end of its stack alone. -/
def AgreeFrom {α β : Type} (C : Course) (E : RenderError → RenderError → Prop)
    (P : α → β → Prop) (m : Evaluated α) (m' : Evaluated β) : Prop :=
  ∀ r r' : Record, C.records r r' →
    (C.alone ∧ (m r).1 = .error .stackExhausted) ∨
      (Ending E P (m r).1 (m' r').1 ∧ C.records (m r).2 (m' r').2)

/-- From any record two evaluations end alike and leave the same record. -/
abbrev Agree {α β : Type} (E : RenderError → RenderError → Prop) (P : α → β → Prop)
    (m : Evaluated α) (m' : Evaluated β) : Prop :=
  AgreeFrom ⟨Eq, False⟩ E P m m'

/-- Related records mark related not-a-numbers, and stay related when a call is
counted in both. -/
structure Pace (R : Value → Value → Prop) (S : Record → Record → Prop) : Prop where
  fresh : ∀ {r r' : Record}, S r r' → R (.float (.nan r.calls)) (.float (.nan r'.calls))
  counted : ∀ {r r' : Record}, S r r' →
    S { r with calls := r.calls + 1 } { r' with calls := r'.calls + 1 }

/-- A record keeps pace with itself. -/
theorem Pace.eq {R : Value → Value → Prop} (h : ∀ p, R (.float (.nan p)) (.float (.nan p))) :
    Pace R Eq where
  fresh hr := hr ▸ h _
  counted hr := hr ▸ rfl

/-- Errors for the same cause at two places are related, also when the cause
names related keys. Names without a meaning are not spoken of: which ones there
are depends on the scopes. -/
structure Placed (R : Value → Value → Prop) (E : RenderError → RenderError → Prop)
    (l l' : Location) : Prop where
  cause : ∀ {c : RenderCause}, (∀ w, c ≠ .unresolved w) → E ⟨c, l⟩ ⟨c, l'⟩
  key : ∀ {k k' : Value}, R k k' → E ⟨.memberNotFound k, l⟩ ⟨.memberNotFound k', l'⟩

section

variable {C : Course} {E : RenderError → RenderError → Prop} {α β γ δ : Type}
  {P : α → β → Prop} {Q : γ → δ → Prop}

theorem AgreeFrom.pure {a : α} {b : β} (h : P a b) :
    AgreeFrom C E P (Pure.pure a : Evaluated α) (Pure.pure b : Evaluated β) :=
  fun _ _ hr => .inr ⟨.value h, hr⟩

theorem AgreeFrom.bind {m : Evaluated α} {m' : Evaluated β} {f : α → Evaluated γ}
    {f' : β → Evaluated δ} (h : AgreeFrom C E P m m')
    (hf : ∀ a b, P a b → AgreeFrom C E Q (f a) (f' b)) :
    AgreeFrom C E Q (m >>= f) (m' >>= f') := by
  intro r r' hr
  rw [bind_eq, bind_eq]
  have hend := h r r' hr
  generalize m r = x at hend
  generalize m' r' = y at hend
  obtain ⟨x, s⟩ := x
  obtain ⟨y, s'⟩ := y
  obtain ⟨halone, rfl⟩ | ⟨hend, hrecord⟩ := hend
  · exact .inl ⟨halone, rfl⟩
  · cases hend with
    | value hab => exact hf _ _ hab s s' hrecord
    | error he => exact .inr ⟨.error he, hrecord⟩
    | stackExhausted => exact .inr ⟨.stackExhausted, hrecord⟩

theorem AgreeFrom.fail {c c' : RenderCause} {l l' : Location} (h : E ⟨c, l⟩ ⟨c', l'⟩) :
    AgreeFrom C E P (Evaluation.fail l c : Evaluated α) (Evaluation.fail l' c' : Evaluated β) :=
  fun _ _ hr => .inr ⟨.error h, hr⟩

/-- Both runs at the end of their stacks. -/
theorem AgreeFrom.exhausted :
    AgreeFrom C E P (throw .stackExhausted : Evaluated α) (throw .stackExhausted : Evaluated β) :=
  fun _ _ hr => .inr ⟨.stackExhausted, hr⟩

/-- Evaluations that agree, and neither of which may stop alone, end alike. -/
theorem Agree.ending {m : Evaluated α} {m' : Evaluated β} (h : Agree E P m m') (r : Record) :
    Ending E P (m r).1 (m' r).1 ∧ (m r).2 = (m' r).2 :=
  (h r r rfl).resolve_left And.left

end

/-! ## Stacks -/

/-- One stack has no more than another: where a step finds its frames on the first, it
finds them on the second. -/
inductive Stack.AtMost : Stack → Stack → Prop
  | endless (k : Stack) : AtMost k .endless
  | smaller {k k' : Stack} (room : k.room ≤ k'.room) (step : ∀ p, k'.step p ≤ k.step p)
      (work : ∀ w n, k'.work w n ≤ k.work w n) : AtMost k k'

/-- Stacks for two runs on a course. -/
structure Course.Fit (C : Course) (k k' : Stack) : Prop where
  atMost : k.AtMost k'
  same : C.alone ∨ k = k'

theorem Course.Fit.refl {C : Course} (k : Stack) : C.Fit k k :=
  ⟨.smaller (Nat.le_refl _) (fun _ => Nat.le_refl _) fun _ _ => Nat.le_refl _, .inr rfl⟩

section

variable {C : Course} {E : RenderError → RenderError → Prop} {α β : Type} {P : α → β → Prop}
  {k k' : Stack} (hk : C.Fit k k')
include hk

/-- At the end of its stack the first run is alone, or the second has come there too. -/
theorem AgreeFrom.outOfRoom {m : Evaluated β} (h : k = k' → m = throw .stackExhausted) :
    AgreeFrom C E P (throw .stackExhausted : Evaluated α) m := by
  intro r r' hr
  rcases hk.same with halone | heq
  · exact .inl ⟨halone, rfl⟩
  · rw [h heq]
    exact .inr ⟨.stackExhausted, hr⟩

/-- Both runs go on to a part, on stacks that fit again. -/
theorem AgreeFrom.below (part : Part) {f : Stack → Evaluated α} {f' : Stack → Evaluated β}
    (hf : ∀ {d d'}, C.Fit d d' → AgreeFrom C E P (f d) (f' d')) :
    AgreeFrom C E P (k.below part >>= f) (k'.below part >>= f') := by
  by_cases hfits : k.step part ≤ k.room
  · rw [Stack.below, if_pos hfits, pure_bind]
    obtain ⟨hmost, hsame⟩ := hk
    cases hmost with
    | endless =>
        refine hf ⟨.endless _, hsame.imp_right ?_⟩
        rintro rfl
        rfl
    | smaller hroom hstep hwork =>
        have hfits' := Nat.le_trans (hstep part) (Nat.le_trans hfits hroom)
        rw [Stack.below, if_pos hfits', pure_bind]
        refine hf ⟨.smaller ?_ hstep hwork, hsame.imp_right ?_⟩
        · have := hstep part
          dsimp only
          omega
        · rintro rfl
          rfl
  · rw [Stack.below, if_neg hfits]
    refine .outOfRoom hk ?_
    rintro rfl
    rw [Stack.below, if_neg hfits]
    rfl

/-- Both runs ask for the frames of some work. -/
theorem AgreeFrom.require (work : Work) {n n' : Nat} (hn : n = n') {m : Evaluated α}
    {m' : Evaluated β} (h : AgreeFrom C E P m m') :
    AgreeFrom C E P (k.require work n >>= fun _ => m) (k'.require work n' >>= fun _ => m') := by
  subst hn
  by_cases hfits : k.work work n ≤ k.room
  · rw [Stack.require, if_pos hfits, pure_bind]
    cases hk.atMost with
    | endless => exact h
    | smaller hroom _ hwork =>
        have hfits' := Nat.le_trans (hwork work n) (Nat.le_trans hfits hroom)
        rwa [Stack.require, if_pos hfits', pure_bind]
  · rw [Stack.require, if_neg hfits]
    refine .outOfRoom hk ?_
    rintro rfl
    rw [Stack.require, if_neg hfits]
    rfl

end

/-- Frames that the first run alone asks for: without them it comes to the end of its
stack. -/
theorem AgreeFrom.requireAlone {C : Course} {E : RenderError → RenderError → Prop} {α β : Type}
    {P : α → β → Prop} (halone : C.alone) (k : Stack) (work : Work) (n : Nat) {m : Evaluated α}
    {m' : Evaluated β} (h : AgreeFrom C E P m m') :
    AgreeFrom C E P (k.require work n >>= fun _ => m) m' := by
  by_cases hfits : k.work work n ≤ k.room
  · rwa [Stack.require, if_pos hfits, pure_bind]
  · rw [Stack.require, if_neg hfits]
    exact fun _ _ _ => .inl ⟨halone, rfl⟩

/-! ## Operations on values -/

section

variable {R : Value → Value → Prop} (hR : Likeness R) {C : Course}
  {E : RenderError → RenderError → Prop} {l l' : Location} (hl : Placed R E l l')
include hR hl

theorem agree_member {v w : Value} (h : R v w) (name : String) :
    AgreeFrom C E R (member l v name) (member l' w name) := by
  cases hR.alike h with
  | dictionary o hes =>
      have hfound := hR.getName? o name hes
      unfold member
      dsimp only
      generalize Dictionary.getName? o _ name = x at hfound ⊢
      generalize Dictionary.getName? o _ name = y at hfound ⊢
      cases hfound with
      | none => exact .fail (hl.cause nofun)
      | some hvw => exact .pure hvw
  | _ => exact .fail (hl.cause nofun)

/-- An element of a list, if the index is one of its. -/
theorem agree_element {vs ws : List Value} (h : List.Forall₂ R vs ws) {k k' : Value}
    (hk : R k k') (o : Origin) :
    AgreeFrom C E R (index l (.list o vs) k) (index l' (.list o ws) k') := by
  cases hR.alike hk with
  | integer i =>
      have hget : ∀ n : Nat, Option.Rel R vs[n]? ws[n]? := by
        intro n
        induction h generalizing n with
        | nil => exact .none
        | cons hvw _ ih =>
            cases n with
            | zero => exact .some hvw
            | succ n => exact ih n
      have hfound := hget i.toNat
      unfold index
      dsimp only
      rw [h.length_eq]
      generalize vs[i.toNat]? = x at hfound ⊢
      generalize ws[i.toNat]? = y at hfound ⊢
      split
      · cases hfound with
        | none => exact .fail (hl.cause nofun)
        | some hvw => exact .pure hvw
      · exact .fail (hl.cause nofun)
  | _ => exact .fail (hl.cause nofun)

theorem agree_index {v w k k' : Value} (h : R v w) (hk : R k k') :
    AgreeFrom C E R (index l v k) (index l' w k') := by
  cases hR.alike h with
  | list o hvs => exact agree_element hR hl hvs hk o
  | dictionary o hes =>
      unfold index
      dsimp only
      rcases hR.lookup o hes hk with ⟨fault, hv, hw⟩ | ⟨found, found', hv, hw, hfound⟩
      · rw [hv, hw, hR.typeName hk]
        exact .fail (hl.cause nofun)
      · rw [hv, hw]
        cases hfound with
        | none => exact .fail (hl.key hk)
        | some hvw => exact .pure hvw
  | _ => exact .fail (hl.cause nofun)

/-! ## Names -/

variable {context context' : Context}

omit hl in
/-- A name in scopes that mean the same, where the functions of the registry are
their own counterparts. -/
theorem agree_resolve
    (hbuiltin : ∀ f ∈ context.registry.functions, R (.builtin f) (.builtin f)) {s s' : Scope}
    (hs : s.Means R s') (x : String)
    (hunresolved : s.lookup x = none → context.Unknown x →
      E ⟨.unresolved x, l⟩ ⟨.unresolved x, l'⟩) :
    AgreeFrom C E R (resolve context s l x) (resolve context s' l' x) := by
  have hfound := hs x
  unfold resolve
  generalize s.lookup x = found at hfound hunresolved ⊢
  generalize s'.lookup x = found' at hfound ⊢
  cases hfound with
  | some h => exact .pure h
  | none =>
      dsimp only
      split
      · next f hf => exact .pure (hbuiltin f (List.mem_of_find?_eq_some hf))
      · next hf =>
          split_ifs with htrue hfalse
          · exact .pure (hR.boolean true)
          · exact .pure (hR.boolean false)
          · exact .fail (hunresolved rfl ⟨hf, htrue, hfalse⟩)

/-! ## Calls -/

omit hR hl in
/-- A library function counts its call and does what its routine does. -/
theorem runRoutine_standard (context : Context) (l : Location) {f : Function}
    {routine : StandardRoutine} (hf : f.routine = .standard routine) (vs : List Value)
    (record : Record) :
    runRoutine context l f vs record =
      (match routine.run ⟨context.clock, record.calls⟩ vs with
        | .ok v => .ok v
        | .error fault => .error (.error ⟨.callFailed f.name (.fault fault), l⟩),
        { record with calls := record.calls + 1 }) := by
  unfold runRoutine
  rw [bind_eq]
  change (Bind.bind (set { record with calls := record.calls + 1 } : Evaluated Unit) _) record = _
  rw [bind_eq, hf]
  change (match routine.run ⟨context.clock, record.calls⟩ vs with
    | .ok v => (pure v : Evaluated Value)
    | .error fault => fail l (.callFailed f.name (.fault fault)))
      { record with calls := record.calls + 1 } = _
  cases routine.run ⟨context.clock, record.calls⟩ vs <;> rfl

/-- The routine of a library function, called with related arguments. -/
theorem agree_runRoutine (hpace : Pace R C.records) (hclock : context.clock = context'.clock)
    {f : Function} {routine : StandardRoutine} (hf : f.routine = .standard routine)
    {vs ws : List Value} (h : List.Forall₂ R vs ws) :
    AgreeFrom C E R (runRoutine context l f vs) (runRoutine context' l' f ws) := by
  intro r r' hr
  rw [runRoutine_standard context l hf, runRoutine_standard context' l' hf, ← hclock]
  refine .inr ⟨?_, hpace.counted hr⟩
  have hs : Surroundings.Related R ⟨context.clock, r.calls⟩ ⟨context.clock, r'.calls⟩ :=
    ⟨rfl, hpace.fresh hr⟩
  have hrun := hR.run hs routine h
  generalize routine.run _ vs = x at hrun ⊢
  generalize routine.run _ ws = y at hrun ⊢
  cases hrun with
  | ok hvw => exact .value hvw
  | error fault => exact .error (hl.cause nofun)

omit hR hl in
/-- An action on the record that gives the same in both runs. -/
theorem agree_self {α : Type} {m : Evaluated α} (hrecords : C.records = Eq)
    (h : ∀ record : Record, ∃ a, (m record).1 = .ok a) : AgreeFrom C E Eq m m := by
  intro record record' hrecord
  rw [hrecords] at hrecord ⊢
  subst hrecord
  obtain ⟨a, ha⟩ := h record
  rw [ha]
  exact .inr ⟨.value rfl, rfl⟩

omit hR in
/-- What is made of the outcome of a routine of the host. -/
theorem agree_hostOutcome (f : Function) {o o' : HostOutcome} :
    HostOutcomeRel R o o' → AgreeFrom C E R
      (match o with
        | .value v => (pure v : Evaluated Value)
        | .fault className text =>
          fail l (.callFailed f.name (.fault (.host className text)))
        | .stackExhausted => throw .stackExhausted)
      (match o' with
        | .value v => (pure v : Evaluated Value)
        | .fault className text =>
          fail l' (.callFailed f.name (.fault (.host className text)))
        | .stackExhausted => throw .stackExhausted) := by
  intro h
  cases h with
  | value h => exact .pure h
  | fault className text => exact .fail (hl.cause nofun)
  | stackExhausted => exact .exhausted

omit hR in
/-- A routine of the host that answers alike. -/
theorem agree_hostRoutine (hrecords : C.records = Eq) {f : Function} {routine : String}
    (hf : f.routine = .host routine) {vs ws : List Value}
    (h : HostReply.Related R (context.host routine vs) (context'.host routine ws)) :
    AgreeFrom C E R (runRoutine context l f vs) (runRoutine context' l' f ws) := by
  obtain ⟨houtcome, hnote⟩ := h
  unfold runRoutine
  rw [hf]
  dsimp only
  rw [hnote]
  refine (agree_self hrecords fun record => ⟨record, rfl⟩).bind ?_
  rintro record _ rfl
  refine (agree_self hrecords fun _ => ⟨(), rfl⟩).bind fun _ _ _ => ?_
  split
  · exact (agree_self hrecords fun _ => ⟨(), rfl⟩).bind fun _ _ _ => agree_hostOutcome hl f houtcome
  · exact agree_hostOutcome hl f houtcome

variable (hlimit : context.limit = context'.limit) {k k' : Stack} (hk : C.Fit k k')
include hlimit

omit hR in
theorem agree_overLimit :
    AgreeFrom C E R (fail l (.callDepthExceeded context.limit))
      (fail l' (.callDepthExceeded context'.limit)) := by
  rw [hlimit]
  exact .fail (hl.cause nofun)

include hk

/-- Calls of one function agree if its routine does. -/
theorem agree_builtin {f : Function} {vs ws : List Value} (budget : Nat)
    (hrun : AgreeFrom C E R (runRoutine context l f vs) (runRoutine context' l' f ws))
    (h : List.Forall₂ R vs ws) :
    AgreeFrom C E R (callOn context budget k l (.builtin f) vs)
      (callOn context' budget k' l' (.builtin f) ws) := by
  unfold callOn
  dsimp only
  rw [h.length_eq]
  split
  · exact .fail (hl.cause nofun)
  · split
    · exact agree_overLimit hl hlimit
    · refine .require hk _ (hR.depthAll h) (hrun.bind fun v w hvw => ?_)
      refine .require hk _ (hR.depth hvw) ?_
      rw [hR.isKnown hvw, hR.representationName hvw]
      split
      · exact .pure hvw
      · exact .fail (hl.cause nofun)

/-- Calls of related values agree if the routines of functions do, and the
bodies of related closures, run with one call less. -/
theorem agree_callOn {budget : Nat}
    (hrun : ∀ {f : Function} {vs ws : List Value}, R (.builtin f) (.builtin f) →
      List.Forall₂ R vs ws →
      AgreeFrom C E R (runRoutine context l f vs) (runRoutine context' l' f ws))
    (hclosure : ∀ {left : Nat} {ps : List String} {a b : Expr} {fr gr : List Frame}
      {vs ws : List Value} {d d' : Stack}, budget = left + 1 →
      R (.closure ps a fr) (.closure ps b gr) → List.Forall₂ R vs ws → vs.length = ps.length →
      C.Fit d d' → AgreeFrom C E R
        (evalOn d context (callOn context left) ((Scope.mk fr).child (ps.zip vs)) a)
        (evalOn d' context' (callOn context' left) ((Scope.mk gr).child (ps.zip ws)) b))
    {v w : Value} {vs ws : List Value} (h : R v w) (hvs : List.Forall₂ R vs ws) :
    AgreeFrom C E R (callOn context budget k l v vs) (callOn context' budget k' l' w ws) := by
  cases hR.alike h with
  | builtin f => exact agree_builtin hR hl hlimit hk budget (hrun h hvs) hvs
  | closure ps a b fr gr =>
      unfold callOn
      dsimp only
      rw [hvs.length_eq]
      split
      · exact .fail (hl.cause nofun)
      · rename_i hlength
        cases budget with
        | zero => exact agree_overLimit hl hlimit
        | succ left =>
            have hlength' : vs.length = ps.length := hvs.length_eq.trans (not_not.mp hlength)
            exact .below hk _ fun hd => hclosure rfl h hvs hlength' hd
  | _ =>
      unfold callOn
      exact .fail (hl.cause nofun)

end

/-! ## Expressions -/

/-- Evaluations that agree on any stacks that fit. -/
def AgreeOn {α β : Type} (C : Course) (E : RenderError → RenderError → Prop) (P : α → β → Prop)
    (f : Stack → Evaluated α) (f' : Stack → Evaluated β) : Prop :=
  ∀ ⦃k k' : Stack⦄, C.Fit k k' → AgreeFrom C E P (f k) (f' k')

section

variable {R : Value → Value → Prop} (hR : Likeness R) {C : Course}
  {E : RenderError → RenderError → Prop} {l l' : Location} {context context' : Context}
  {call call' : Stack → Caller} {s s' : Scope}

/-- Elements that agree one by one agree as a list. -/
theorem agree_evalAll {es es' : List Expr}
    (h : List.Forall₂ (fun e e' => AgreeOn C E R (evalOn · context call s e)
      (evalOn · context' call' s' e')) es es') :
    AgreeOn C E (List.Forall₂ R) (evalAllOn · context call s es)
      (evalAllOn · context' call' s' es') := by
  intro k k' hk
  dsimp only
  induction h with
  | nil =>
      rw [evalAllOn, evalAllOn]
      exact .pure .nil
  | cons he _ ih =>
      rw [evalAllOn, evalAllOn]
      exact (he hk).bind fun v w hvw => ih.bind fun vs ws hvs => .pure (.cons hvw hvs)

theorem agree_float {x : Binary64} (h : R (.float x) (.float x)) :
    AgreeOn C E R (evalOn · context call s (.float l x))
      (evalOn · context' call' s' (.float l' x)) := by
  intro k k' _
  dsimp only
  rw [evalOn, evalOn]
  exact .pure h

theorem agree_nameOf {w : String}
    (h : AgreeFrom C E R (resolve context s l w) (resolve context' s' l' w)) :
    AgreeOn C E R (evalOn · context call s (.name l w))
      (evalOn · context' call' s' (.name l' w)) := by
  intro k k' hk
  dsimp only
  rw [evalOn, evalOn]
  exact .require hk _ rfl h

theorem agree_function {ps ps' : List String} {b b' : Expr}
    (h : R (.closure ps b s.frames) (.closure ps' b' s'.frames)) :
    AgreeOn C E R (evalOn · context call s (.function l ps b))
      (evalOn · context' call' s' (.function l' ps' b')) := by
  intro k k' hk
  dsimp only
  rw [evalOn, evalOn]
  exact .require hk _ rfl (.pure h)

include hR

theorem agree_string (u : String) :
    AgreeOn C E R (evalOn · context call s (.string l u))
      (evalOn · context' call' s' (.string l' u)) := by
  intro k k' _
  dsimp only
  rw [evalOn, evalOn]
  exact .pure (hR.string u)

theorem agree_integer (i : Int) :
    AgreeOn C E R (evalOn · context call s (.integer l i))
      (evalOn · context' call' s' (.integer l' i)) := by
  intro k k' _
  dsimp only
  rw [evalOn, evalOn]
  exact .pure (hR.integer i)

/-- Entries that agree one by one agree as a list; a bad key is reported at the
place of its expression. -/
theorem agree_evalEntries {es es' : List (Expr × Expr)}
    (h : List.Forall₂ (fun p p' => Placed R E p.1.location p'.1.location ∧
      AgreeOn C E R (evalOn · context call s p.1) (evalOn · context' call' s' p'.1) ∧
      AgreeOn C E R (evalOn · context call s p.2) (evalOn · context' call' s' p'.2)) es es') :
    AgreeOn C E (List.Forall₂ (EntryRel R)) (evalEntriesOn · context call s es)
      (evalEntriesOn · context' call' s' es') := by
  intro k k' hk
  dsimp only
  induction h with
  | nil =>
      rw [evalEntriesOn, evalEntriesOn]
      exact .pure .nil
  | @cons p p' es es' hp _ ih =>
      obtain ⟨key, value⟩ := p
      obtain ⟨key', value'⟩ := p'
      obtain ⟨hl, hkey, hvalue⟩ := hp
      rw [evalEntriesOn, evalEntriesOn]
      refine (hkey hk).bind fun u u' hu => .require hk _ (hR.depth hu) ?_
      rw [hR.keyFault? hu, hR.typeName hu]
      split
      · exact .fail (hl.cause nofun)
      · exact (hvalue hk).bind fun v v' hv => ih.bind fun _ _ hes => .pure (.cons ⟨hu, hv⟩ hes)

theorem agree_list {es es' : List Expr}
    (h : List.Forall₂ (fun e e' => AgreeOn C E R (evalOn · context call s e)
      (evalOn · context' call' s' e')) es es') :
    AgreeOn C E R (evalOn · context call s (.list l es))
      (evalOn · context' call' s' (.list l' es')) := by
  intro k k' hk
  dsimp only
  rw [evalOn, evalOn]
  exact .below hk _ fun hd => (agree_evalAll h hd).bind fun _ _ hvs => .pure (hR.list hvs)

theorem agree_dictionary {es es' : List (Expr × Expr)}
    (h : List.Forall₂ (fun p p' => Placed R E p.1.location p'.1.location ∧
      AgreeOn C E R (evalOn · context call s p.1) (evalOn · context' call' s' p'.1) ∧
      AgreeOn C E R (evalOn · context call s p.2) (evalOn · context' call' s' p'.2)) es es') :
    AgreeOn C E R (evalOn · context call s (.dictionary l es))
      (evalOn · context' call' s' (.dictionary l' es')) := by
  intro k k' hk
  dsimp only
  rw [evalOn, evalOn]
  exact .below hk _ fun hd => (agree_evalEntries hR h hd).bind fun _ _ hes =>
    .pure (hR.dictionary (Likeness.putAll hR.sameKey_respects hes))

variable (hl : Placed R E l l') {a a' : Expr}
  (ha : AgreeOn C E R (evalOn · context call s a) (evalOn · context' call' s' a'))
include hl ha

theorem agree_memberOf (w : String) :
    AgreeOn C E R (evalOn · context call s (.member l a w))
      (evalOn · context' call' s' (.member l' a' w)) := by
  intro k k' hk
  dsimp only
  rw [evalOn, evalOn]
  exact .below hk _ fun hd => (ha hd).bind fun _ _ hv =>
    .require hk _ (hR.depth hv) (agree_member hR hl hv w)

theorem agree_indexOf {b b' : Expr}
    (hb : AgreeOn C E R (evalOn · context call s b) (evalOn · context' call' s' b')) :
    AgreeOn C E R (evalOn · context call s (.index l a b))
      (evalOn · context' call' s' (.index l' a' b')) := by
  intro k k' hk
  dsimp only
  rw [evalOn, evalOn]
  refine .below hk _ fun hd => (ha hd).bind fun _ _ hv => ?_
  refine .below hk _ fun hd => (hb hd).bind fun _ _ hw => ?_
  exact .require hk _ (by rw [hR.depth hv, hR.depth hw]) (agree_index hR hl hv hw)

omit hR hl in
theorem agree_callOf
    (hcall : ∀ {k k' : Stack} {v w : Value} {vs ws : List Value}, C.Fit k k' → R v w →
      List.Forall₂ R vs ws → AgreeFrom C E R (call k l v vs) (call' k' l' w ws))
    {es es' : List Expr}
    (hes : List.Forall₂ (fun e e' => AgreeOn C E R (evalOn · context call s e)
      (evalOn · context' call' s' e')) es es') :
    AgreeOn C E R (evalOn · context call s (.call l a es))
      (evalOn · context' call' s' (.call l' a' es')) := by
  intro k k' hk
  dsimp only
  rw [evalOn, evalOn]
  refine .below hk _ fun hd => (ha hd).bind fun _ _ hv => ?_
  exact .below hk _ fun hd => (agree_evalAll hes hd).bind fun _ _ hvs => hcall hk hv hvs

theorem agree_choice {b b' c c' : Expr}
    (hb : AgreeOn C E R (evalOn · context call s b) (evalOn · context' call' s' b'))
    (hc : AgreeOn C E R (evalOn · context call s c) (evalOn · context' call' s' c')) :
    AgreeOn C E R (evalOn · context call s (.choice l a b c))
      (evalOn · context' call' s' (.choice l' a' b' c')) := by
  intro k k' hk
  dsimp only
  rw [evalOn, evalOn]
  refine .below hk _ fun hd => (ha hd).bind fun v w hvw => .below hk _ fun hd => ?_
  cases hR.alike hvw with
  | boolean x =>
      cases x with
      | true => exact hb hd
      | false => exact hc hd
  | _ => exact .fail (hl.cause nofun)

omit hl ha in
/-- Children that agree one by one render as the same text. -/
theorem agree_renderAll {es es' : List Expr}
    (h : List.Forall₂ (fun e e' => AgreeOn C E R
      (evalOn · context (callOn context context.limit) s e)
      (evalOn · context' (callOn context' context'.limit) s' e')) es es') :
    AgreeOn C E Eq (renderAllOn · context s es) (renderAllOn · context' s' es') := by
  intro k k' hk
  dsimp only
  induction h with
  | nil =>
      rw [renderAllOn, renderAllOn]
      exact .pure rfl
  | cons he _ ih =>
      rw [renderAllOn, renderAllOn]
      refine (he hk).bind fun v w hvw => .require hk _ (hR.depth hvw) (ih.bind ?_)
      rintro text _ rfl
      rw [hR.text hvw]
      exact .pure rfl

end

/-! ## Outcomes -/

section

variable {α : Type} {context : Context} {l : Location} {m : Evaluated α} {record : Record}

theorem settle_eq_ok {a : α} :
    (settle context l m record).1 = .ok a ↔ (m record).1 = .ok a := by
  unfold settle
  generalize m record = x
  match x with
  | (.ok _, _) => simp
  | (.error (.error _), _) => simp
  | (.error .stackExhausted, _) => simp

theorem settle_eq_error {e : RenderError} :
    (settle context l m record).1 = .error e ↔
      (m record).1 = .error (.error e) ∨
        (m record).1 = .error .stackExhausted ∧ e = ⟨.callDepthExceeded context.limit, l⟩ := by
  unfold settle
  generalize m record = x
  match x with
  | (.ok _, _) => simp
  | (.error (.error _), _) => simp
  | (.error .stackExhausted, _) => simp [eq_comm]

end

/-- Runs that agree settle alike, as far as `g` tells errors apart, unless the first
comes to the end of its stack alone. -/
theorem settle_mapError {α γ : Type} {g : RenderError → γ} {alone : Prop}
    {context context' : Context} (hlimit : context.limit = context'.limit) (l : Location)
    {m m' : Evaluated α} (h : AgreeFrom ⟨Eq, alone⟩ (fun e e' => g e = g e') Eq m m')
    (record : Record) :
    (alone ∧ (m record).1 = .error .stackExhausted) ∨
      ((settle context l m record).1.mapError g = (settle context' l m' record).1.mapError g ∧
        (settle context l m record).2 = (settle context' l m' record).2) := by
  refine (h record record rfl).imp_right fun ⟨hend, hrecord⟩ => ?_
  unfold settle
  generalize m record = x at hend hrecord
  generalize m' record = y at hend hrecord
  obtain ⟨x, r⟩ := x
  obtain ⟨y, r'⟩ := y
  dsimp only at hend hrecord
  subst hrecord
  cases hend with
  | value h => exact ⟨congrArg Except.ok h, rfl⟩
  | error h => exact ⟨congrArg Except.error h, rfl⟩
  | stackExhausted =>
      rw [hlimit]
      exact ⟨rfl, rfl⟩

end Evaluation

end Inlay
