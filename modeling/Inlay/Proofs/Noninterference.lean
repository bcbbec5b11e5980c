import Inlay.Expr.Reader
import Inlay.Probe
import Inlay.Report
import Inlay.Proofs.Runs
import Inlay.Proofs.Scopes
import Inlay.Proofs.Trees

/-!
# Names that a template does not mention

What a template renders as depends on the names that occur in it and on nothing
else that its scope and its registry hold (`render_unmentioned`).

The closures of two runs capture different scopes, so the runs are compared up
to what closures captured: two closures of one function literal correspond as
soon as their scopes mean the same by the names of its body (`Recaptured`).
Texts, equality, keys and messages do not look at captured scopes. A routine of the host
is handed closures as they are, so it may look there, and then the names show
(`captured_scope_shows`). So the functions that a template can come by are to have routines
that do not (`Host.Blind`); those of the library have none of the host's
(`Host.blind_of_standard`).
-/

namespace Inlay

/-! ## The names of a tree -/

namespace Expr

def name? : Expr → Option String
  | .name _ w => some w
  | _ => none

/-- The names that occur in an expression, function bodies included. -/
def mentioned (e : Expr) : List String := e.nodes.filterMap name?

theorem filterMap_nodesAll (es : List Expr) :
    (nodesAll es).filterMap name? = es.flatMap mentioned := by
  rw [nodesAll_eq, List.filterMap_flatMap]
  rfl

theorem mentioned_member (l : Location) (b : Expr) (w : String) :
    (member l b w).mentioned = b.mentioned := by
  simp [mentioned, nodes, name?, List.filterMap_cons]

theorem mentioned_index (l : Location) (b k : Expr) :
    (index l b k).mentioned = b.mentioned ++ k.mentioned := by
  simp [mentioned, nodes, name?, List.filterMap_cons]

theorem mentioned_call (l : Location) (f : Expr) (es : List Expr) :
    (call l f es).mentioned = f.mentioned ++ es.flatMap mentioned := by
  rw [← filterMap_nodesAll]
  simp [mentioned, nodes, name?, List.filterMap_cons]

theorem mentioned_choice (l : Location) (c a b : Expr) :
    (choice l c a b).mentioned = c.mentioned ++ (a.mentioned ++ b.mentioned) := by
  simp [mentioned, nodes, name?, List.filterMap_cons]

theorem mentioned_list (l : Location) (es : List Expr) :
    (list l es).mentioned = es.flatMap mentioned := by
  rw [← filterMap_nodesAll]
  simp [mentioned, nodes, name?, List.filterMap_cons]

theorem mentioned_dictionary (l : Location) (es : List (Expr × Expr)) :
    (dictionary l es).mentioned = es.flatMap fun p => p.1.mentioned ++ p.2.mentioned := by
  simp [mentioned, nodes, name?, nodesEntries_eq, List.filterMap_cons, List.filterMap_flatMap]

theorem mentioned_function (l : Location) (ps : List String) (b : Expr) :
    (function l ps b).mentioned = b.mentioned := by
  simp [mentioned, nodes, name?, List.filterMap_cons]

end Expr

def Template.mentioned (t : Template) : List String := t.children.flatMap Expr.mentioned

/-! ## Values up to what closures captured -/

/-- A value without closures, where the functions in it are among `own`. -/
inductive Value.ClosureFree (own : Function → Prop) : Value → Prop
  | integer (n : Int) : ClosureFree own (.integer n)
  | float (x : Binary64) : ClosureFree own (.float x)
  | string (s : String) : ClosureFree own (.string s)
  | boolean (b : Bool) : ClosureFree own (.boolean b)
  | list (o : Origin) {vs : List Value} (h : ∀ v ∈ vs, ClosureFree own v) :
      ClosureFree own (.list o vs)
  | dictionary (o : Origin) {es : List (Value × Value)}
      (hkeys : ∀ p ∈ es, ClosureFree own p.1) (hvalues : ∀ p ∈ es, ClosureFree own p.2) :
      ClosureFree own (.dictionary o es)
  | builtin {f : Function} (h : own f) : ClosureFree own (.builtin f)
  | foreign (f : Foreign) : ClosureFree own (.foreign f)

/-- A value of one run and its counterpart in another, where both runs know the
names of `names` alike and come by functions of `own` alone. -/
inductive Recaptured (own : Function → Prop) (names : List String) : Value → Value → Prop
  | integer (n : Int) : Recaptured own names (.integer n) (.integer n)
  | float (x : Binary64) : Recaptured own names (.float x) (.float x)
  | string (s : String) : Recaptured own names (.string s) (.string s)
  | boolean (b : Bool) : Recaptured own names (.boolean b) (.boolean b)
  | list (o : Origin) {vs ws : List Value} (h : List.Forall₂ (Recaptured own names) vs ws) :
      Recaptured own names (.list o vs) (.list o ws)
  | dictionary (o : Origin) {es fs : List (Value × Value)}
      (hkeys : List.Forall₂ (Recaptured own names) (es.map Prod.fst) (fs.map Prod.fst))
      (hvalues : List.Forall₂ (Recaptured own names) (es.map Prod.snd) (fs.map Prod.snd)) :
      Recaptured own names (.dictionary o es) (.dictionary o fs)
  | closure {ps : List String} {b : Expr} {fr gr : List Frame} (hnames : b.mentioned ⊆ names)
      (hmeans : ∀ x ∈ names,
        Option.Rel (Recaptured own names) ((Scope.mk fr).lookup x) ((Scope.mk gr).lookup x)) :
      Recaptured own names (.closure ps b fr) (.closure ps b gr)
  | builtin {f : Function} (h : own f) : Recaptured own names (.builtin f) (.builtin f)
  | foreign (f : Foreign) : Recaptured own names (.foreign f) (.foreign f)

namespace Recaptured

variable {own : Function → Prop} {names : List String}

theorem of_entries (o : Origin) {es fs : List (Value × Value)}
    (h : List.Forall₂ (EntryRel (Recaptured own names)) es fs) :
    Recaptured own names (.dictionary o es) (.dictionary o fs) :=
  .dictionary o (forall₂_entryRel.mp h).1 (forall₂_entryRel.mp h).2

theorem likeness : Likeness (Recaptured own names) where
  alike h := by
    cases h with
    | integer n => exact .integer n
    | float x => exact .float (.refl x)
    | string s => exact .string s
    | boolean b => exact .boolean b
    | list o h => exact .list o h
    | dictionary o hk hv => exact .dictionary o (forall₂_entryRel.mpr ⟨hk, hv⟩)
    | closure => exact .closure ..
    | builtin => exact .builtin _
    | foreign => exact .foreign _
  same h h' := by
    cases h
    cases h'
    rfl
  body h := by
    cases h
    rfl
  nan h h' := by
    cases h
    cases h'
    rfl
  integer := .integer
  float _ := .float _
  string := .string
  boolean := .boolean
  list := .list .template
  dictionary := of_entries .template

theorem refl {v : Value} (h : v.ClosureFree own) : Recaptured own names v v := by
  induction h with
  | integer n => exact .integer n
  | float x => exact .float x
  | string s => exact .string s
  | boolean b => exact .boolean b
  | list o _ ih => exact .list o (List.forall₂_same.mpr ih)
  | dictionary o _ _ ihk ihv =>
      exact of_entries o (List.forall₂_same.mpr fun p hp => ⟨ihk p hp, ihv p hp⟩)
  | builtin hf => exact .builtin hf
  | foreign f => exact .foreign f

/-- A value in full shows of a closure its parameters and its body, places
included, but not its scope. -/
theorem fullText {v w : Value} (h : Recaptured own names v w) : v.fullText = w.fullText := by
  have htexts : ∀ vs : List Value, Value.fullTexts vs = vs.map Value.fullText := by
    intro vs
    induction vs with
    | nil => rfl
    | cons v vs ih => rw [Value.fullTexts, ih, List.map_cons]
  have hentries : ∀ es : List (Value × Value), Value.entryFullTexts es =
      es.map fun p => p.1.fullText ++ ": " ++ p.2.fullText := by
    intro es
    induction es with
    | nil => rfl
    | cons p es ih => rw [Value.entryFullTexts, ih, List.map_cons]
  induction v using Value.induction generalizing w with
  | list o vs ih =>
      cases h with
      | list _ hvs =>
          cases o <;>
            rw [Value.fullText, Value.fullText, htexts, htexts, map_eq_of_forall₂ hvs ih]
  | dictionary o es ih =>
      cases h with
      | dictionary _ hk hv =>
          have hes := forall₂_entryRel.mpr ⟨hk, hv⟩
          have hmap := map_eq_of_forall₂ (f := fun p => p.1.fullText ++ ": " ++ p.2.fullText)
            (g := fun p => p.1.fullText ++ ": " ++ p.2.fullText) hes fun p hp q hpq => by
              rw [(ih p hp).1 hpq.1, (ih p hp).2 hpq.2]
          cases o <;> rw [Value.fullText, Value.fullText, hentries, hentries, hmap]
  | _ => cases h; rfl

end Recaptured

/-! ## Hosts -/

/-- A host whose routines for functions of `own` do not look into the scopes that
closures captured, and return no other functions. -/
def Host.Blind (own : Function → Prop) (host : Host) : Prop :=
  ∀ (names : List String) {f : Function} {routine : String} {vs ws : List Value}, own f →
    f.routine = .host routine → List.Forall₂ (Recaptured own names) vs ws →
      HostReply.Related (Recaptured own names) (host routine vs) (host routine ws)

/-- Where all functions are the library's, what the host does makes no difference. -/
theorem Host.blind_of_standard (host : Host) :
    host.Blind fun f => ∃ routine, f.routine = .standard routine := by
  rintro names f routine vs ws ⟨standard, hstandard⟩ hhost
  cases hstandard.symm.trans hhost

section

variable {own : Function → Prop}

theorem Probe.alternate_related {names : List String} {vs ws : List Value}
    (h : List.Forall₂ (Recaptured own names) vs ws) :
    List.Forall₂ (EntryRel (Recaptured own names)) (alternate vs) (alternate ws) := by
  induction vs using alternate.induct generalizing ws with
  | case1 key value rest ih =>
      obtain _ | ⟨hkey, _ | ⟨hvalue, hrest⟩⟩ := h
      exact .cons ⟨hkey, hvalue⟩ (ih hrest)
  | case2 vs hvs =>
      obtain _ | ⟨_, _ | ⟨_, _⟩⟩ := h
      · exact .nil
      · exact .nil
      · exact absurd rfl (hvs _ _ _)

/-- Whatever a probe gives back, it has not looked into a closure's scope. -/
theorem Probe.host_blind : Probe.host.Blind own := by
  intro names f routine vs ws _ _ h
  have hR : Likeness (Recaptured own names) := Recaptured.likeness
  have hreply : ∀ {v w : Value}, Recaptured own names v w →
      HostReply.Related (Recaptured own names) (Probe.reply v) (Probe.reply w) :=
    fun h => ⟨.value h, rfl⟩
  have hfault : ∀ className text : String, HostReply.Related (Recaptured own names)
      (Probe.fault className text) (Probe.fault className text) :=
    fun className text => ⟨.fault className text, rfl⟩
  unfold Probe.host
  split
  · cases h with
    | cons hv _ => exact hreply hv
  · cases h
    exact hfault _ _
  · exact hreply (.list .template h)
  · exact hreply (.list .host h)
  · rcases hR.hostEntries (Probe.alternate_related h) with ⟨f, hv, hw⟩ | ⟨es, fs, hv, hw, hes⟩
    · rw [hv, hw]
      exact hfault _ _
    · rw [hv, hw]
      exact hreply (.of_entries .host hes)
  · rw [h.length_eq]
    exact hreply (.integer _)
  · exact hreply (.foreign _)
  · exact hreply (.foreign _)
  · exact hreply (.list .host (.cons (.integer 1)
      (.cons (.list .host (.cons (.foreign _) .nil)) .nil)))
  · exact hreply (.of_entries .host (.cons ⟨.string _, .foreign _⟩ .nil))
  · exact hfault _ _
  · exact hfault _ _
  · exact hfault _ _
  · exact hfault _ _
  · exact ⟨.stackExhausted, rfl⟩
  · refine ⟨.value ?_, congrArg some (hR.texts h)⟩
    cases h with
    | nil => exact .string ""
    | cons hv _ => exact hv
  · -- a name that is no probe's for some arguments is none for related ones
    split
    case h_17 => exact hfault _ _
    all_goals cases h <;> simp_all

end

/-- What templates know alike by some names: functions, which are among `own`, and all
that calls take from their surroundings. -/
structure Context.AgreesOn (own : Function → Prop) (names : List String)
    (context context' : Context) : Prop where
  registry : ∀ x ∈ names, context.registry.find? x = context'.registry.find? x
  registered : ∀ x ∈ names, ∀ f, context.registry.find? x = some f → own f
  host : context.host = context'.host
  clock : context.clock = context'.clock
  limit : context.limit = context'.limit

/-- Scopes that bind some names to the same values, none of which holds a
closure, or not at all. -/
def Scope.AgreesOn (own : Function → Prop) (names : List String) (s s' : Scope) : Prop :=
  ∀ x ∈ names, s.lookup x = s'.lookup x ∧ ∀ v, s.lookup x = some v → v.ClosureFree own

/-! ## The two runs -/

namespace Evaluation

/-- Errors that look the same: of one kind, with one message, at one place. -/
def SameDiagnostic (e e' : RenderError) : Prop := e.diagnostic = e'.diagnostic

variable {own : Function → Prop} {names : List String}

theorem placed_sameDiagnostic (l : Location) : Placed (Recaptured own names) SameDiagnostic l l where
  cause _ := rfl
  key h := by
    have htext : ∀ {k k' : Value}, k.fullText = k'.fullText →
        (RenderCause.memberNotFound k).text = (RenderCause.memberNotFound k').text :=
      fun h => congrArg (fun t => "Member " ++ t ++ " not found") h
    exact congrArg (Diagnostic.mk "MemberNotFound" · (some l)) (htext h.fullText)

section

variable {context context' : Context} (hhost : context.host.Blind own)
  (hcontext : context.AgreesOn own names context')
include hhost hcontext

theorem agree_routine (l : Location) {f : Function} (hown : own f) {vs ws : List Value}
    (h : List.Forall₂ (Recaptured own names) vs ws) :
    Agree SameDiagnostic (Recaptured own names) (runRoutine context l f vs)
      (runRoutine context' l f ws) := by
  cases hf : f.routine with
  | standard routine =>
      exact agree_runRoutine Recaptured.likeness (placed_sameDiagnostic l) (.eq fun _ => .float _)
        hcontext.clock hf h
  | host routine =>
      exact agree_hostRoutine (placed_sameDiagnostic l) rfl hf
        (hcontext.host ▸ hhost names hown hf h)

omit hhost in
theorem agree_name {s s' : Scope}
    (hs : ∀ x ∈ names, Option.Rel (Recaptured own names) (s.lookup x) (s'.lookup x)) (l : Location)
    {x : String} (hx : x ∈ names) :
    Agree SameDiagnostic (Recaptured own names) (resolve context s l x) (resolve context' s' l x) := by
  have hfound := hs x hx
  unfold resolve
  have hregistry := hcontext.registry x hx
  rw [hregistry]
  generalize s.lookup x = found at hfound ⊢
  generalize s'.lookup x = found' at hfound ⊢
  cases hfound with
  | some h => exact .pure h
  | none =>
      dsimp only
      split
      · next f hf => exact .pure (.builtin (hcontext.registered x hx f (hregistry.trans hf)))
      · split
        · exact .pure (.boolean true)
        · split
          · exact .pure (.boolean false)
          · exact .fail rfl

omit hhost in
/-- An expression agrees with itself in scopes that mean the same by its names. -/
theorem agree_mentioned {call call' : Stack → Caller}
    (hcall : ∀ (l : Location) {k k' : Stack} {w w' : Value} {ws ws' : List Value},
      Course.Fit ⟨Eq, False⟩ k k' → Recaptured own names w w' →
      List.Forall₂ (Recaptured own names) ws ws' →
      Agree SameDiagnostic (Recaptured own names) (call k l w ws) (call' k' l w' ws'))
    {s s' : Scope}
    (hs : ∀ x ∈ names, Option.Rel (Recaptured own names) (s.lookup x) (s'.lookup x)) {e : Expr}
    (he : e.mentioned ⊆ names) :
    AgreeOn ⟨Eq, False⟩ SameDiagnostic (Recaptured own names) (evalOn · context call s e)
      (evalOn · context' call' s' e) := by
  have hR : Likeness (Recaptured own names) := Recaptured.likeness
  have hl : ∀ l, Placed (Recaptured own names) SameDiagnostic l l := placed_sameDiagnostic
  have hmember : ∀ {es : List Expr}, es.flatMap Expr.mentioned ⊆ names →
      ∀ e ∈ es, e.mentioned ⊆ names := fun hes e he x hx =>
    hes (List.mem_flatMap.mpr ⟨e, he, hx⟩)
  induction e using Expr.induction with
  | string l u => exact agree_string hR u
  | integer l i => exact agree_integer hR i
  | float l x => exact agree_float (.float x)
  | name l w =>
      exact agree_nameOf
        (agree_name hcontext hs l (he (by simp [Expr.mentioned, Expr.nodes, Expr.name?])))
  | member l b w ih =>
      rw [Expr.mentioned_member] at he
      exact agree_memberOf hR (hl l) (ih he) w
  | index l b k ihb ihk =>
      rw [Expr.mentioned_index, List.append_subset] at he
      exact agree_indexOf hR (hl l) (ihb he.1) (ihk he.2)
  | call l f es ihf ihes =>
      rw [Expr.mentioned_call, List.append_subset] at he
      exact agree_callOf (ihf he.1) (hcall l)
        (List.forall₂_same.mpr fun e he' => ihes e he' (hmember he.2 e he'))
  | choice l c a b ihc iha ihb =>
      rw [Expr.mentioned_choice, List.append_subset, List.append_subset] at he
      exact agree_choice hR (hl l) (ihc he.1) (iha he.2.1) (ihb he.2.2)
  | list l es ih =>
      rw [Expr.mentioned_list] at he
      exact agree_list hR (List.forall₂_same.mpr fun e he' => ih e he' (hmember he e he'))
  | dictionary l es ih =>
      rw [Expr.mentioned_dictionary] at he
      refine agree_dictionary hR (List.forall₂_same.mpr fun p hp => ?_)
      have hboth : p.1.mentioned ++ p.2.mentioned ⊆ names := fun x hx =>
        he (List.mem_flatMap.mpr ⟨p, hp, hx⟩)
      obtain ⟨hkey, hvalue⟩ := List.append_subset.mp hboth
      exact ⟨hl _, (ih p hp).1 hkey, (ih p hp).2 hvalue⟩
  | function l ps b =>
      rw [Expr.mentioned_function] at he
      exact agree_function (.closure he hs)

/-- Calls of counterparts agree: the body runs in scopes that mean the same by
its names, with related arguments in front. -/
theorem agree_recaptured (budget : Nat) (l : Location) {k k' : Stack} {w w' : Value}
    {ws ws' : List Value} (hk : Course.Fit ⟨Eq, False⟩ k k') (hw : Recaptured own names w w')
    (hws : List.Forall₂ (Recaptured own names) ws ws') :
    Agree SameDiagnostic (Recaptured own names) (callOn context budget k l w ws)
      (callOn context' budget k' l w' ws') := by
  induction budget using Nat.strongRecOn generalizing l k k' w w' ws ws' with
  | ind budget ih =>
      refine agree_callOn Recaptured.likeness (placed_sameDiagnostic l) hcontext.limit hk
        ?_ ?_ hw hws
      · intro f us us' hf hus
        cases hf with
        | builtin hown => exact agree_routine hhost hcontext l hown hus
      rintro left ps a b fr gr us us' d d' rfl hclosure hus - hd
      cases hclosure with
      | closure hnames hmeans =>
          refine agree_mentioned hcontext (ih left (Nat.lt_succ_self left)) ?_ hnames hd
          intro x hx
          exact Scope.rel_lookup_child (hmeans x hx) (Scope.zip_forall₂ ps hus)

end

end Evaluation

/-! ## Rendering -/

/-- A template renders as the same text, or fails with the same kind of error,
message and place, whatever else scope and registry hold than the names that
occur in it, where no function that it comes by looks at what closures captured. It
also leaves the same record. -/
theorem render_unmentioned (t : Template) {context context' : Context} {scope scope' : Scope}
    {own : Function → Prop} (hhost : context.host.Blind own)
    (hcontext : context.AgreesOn own t.mentioned context')
    (hscope : scope.AgreesOn own t.mentioned scope') (stack : Evaluation.Stack) (record : Record) :
    let first := t.renderOn stack context scope record
    let second := t.renderOn stack context' scope' record
    first.1.mapError RenderError.diagnostic = second.1.mapError RenderError.diagnostic ∧
      first.2 = second.2 := by
  have hmeans : ∀ x ∈ t.mentioned,
      Option.Rel (Recaptured own t.mentioned) (scope.lookup x) (scope'.lookup x) := by
    intro x hx
    obtain ⟨hsame, hfree⟩ := hscope x hx
    rw [← hsame]
    cases hfound : scope.lookup x with
    | none => exact .none
    | some v => exact .some (Recaptured.refl (hfree v hfound))
  have hagree : Evaluation.Agree Evaluation.SameDiagnostic Eq
      (Evaluation.renderAllOn stack context scope t.children)
      (Evaluation.renderAllOn stack context' scope' t.children) := by
    have hR : Likeness (Recaptured own t.mentioned) := Recaptured.likeness
    refine Evaluation.agree_renderAll hR (List.forall₂_same.mpr fun e he => ?_) (.refl stack)
    refine Evaluation.agree_mentioned hcontext ?_ hmeans fun x hx =>
      List.mem_flatMap.mpr ⟨e, he, hx⟩
    rw [← hcontext.limit]
    exact Evaluation.agree_recaptured hhost hcontext _
  exact (Evaluation.settle_mapError hcontext.limit t.location hagree record).resolve_left And.left

/-- A closure that is handed to the host and called: only `x` and `record` have
to be known alike, however many frames and functions there are besides. -/
theorem render_unmentioned_closure :
    let record : Function := ⟨"record", .host "record", 0, none, ""⟩
    let other : Function := ⟨"y", .host "boom", 0, none, ""⟩
    let context : Context := ⟨⟨[record]⟩, Probe.host, 0, 8⟩
    let context' : Context := ⟨⟨[other, record]⟩, Probe.host, 0, 8⟩
    let scope := Scope.root [("x", .string "v"), ("y", .integer 1)]
    let scope' := (Scope.root [("x", .string "v")]).child [("z", .closure [] (.name .start "x") [])]
    ∃ t, Template.parse .usual "<%= record(fn() -> x)() %>" = .ok t ∧
      context.host.Blind (· = record) ∧ context.AgreesOn (· = record) t.mentioned context' ∧
      scope.AgreesOn (· = record) t.mentioned scope' ∧
      (t.renderOn .usual context scope ⟨0, []⟩).1.mapError RenderError.diagnostic = .ok "v" ∧
      (t.renderOn .usual context' scope' ⟨0, []⟩).1.mapError RenderError.diagnostic =
        .ok "v" := by
  intro record other context context' scope scope'
  let t : Template :=
    ⟨[.call ⟨1, 22⟩ (.call ⟨1, 11⟩ (.name ⟨1, 5⟩ "record")
      [.function ⟨1, 12⟩ [] (.name ⟨1, 20⟩ "x")]) []]⟩
  have hread : Template.parse .usual "<%= record(fn() -> x)() %>" = .ok t := by
    with_unfolding_all rfl
  have hnames : t.mentioned = ["record", "x"] := by
    with_unfolding_all rfl
  have hcontext : context.AgreesOn (· = record) t.mentioned context' := by
    rw [hnames]
    exact ⟨by simp [context, context', Registry.find?, record, other],
      by simp [context, Registry.find?], rfl, rfl, rfl⟩
  have hscope : scope.AgreesOn (· = record) t.mentioned scope' := by
    rw [hnames]
    intro x hx
    rcases List.mem_pair.mp hx with rfl | rfl
    · exact ⟨rfl, fun v hv => by cases hv⟩
    · refine ⟨rfl, fun v hv => ?_⟩
      cases hv
      exact .string "v"
  have hfirst : (t.renderOn .usual context scope ⟨0, []⟩).1.mapError RenderError.diagnostic =
      .ok "v" := by
    with_unfolding_all rfl
  have hboth := render_unmentioned t Probe.host_blind hcontext hscope .usual ⟨0, []⟩
  exact ⟨t, hread, Probe.host_blind, hcontext, hscope, hfirst, hboth.1.symm.trans hfirst⟩

/-- A host with a routine that counts the bindings which a closure has captured. -/
def Host.counting : Host
  | _, .closure _ _ frames :: _ => ⟨.value (.integer frames.flatten.length), .none⟩
  | name, _ => ⟨.fault "RuntimeError" name, .none⟩

/-- A routine of the host may look into the scope of a closure, and then a name that the
template does not mention shows. And names that mean a not-a-number in both runs must mean
one and the same, not only look the same: it is the key of an entry just where it is that
very one. -/
theorem captured_scope_shows :
    let count : Function := ⟨"count", .host "count", 1, some 1, ""⟩
    let context : Context := ⟨⟨[count]⟩, Host.counting, 0, 8⟩
    let same := Scope.root [("a", .float (.nan 0)), ("b", .float (.nan 0))]
    let apart := Scope.root [("a", .float (.nan 0)), ("b", .float (.nan 1))]
    let all : Function → Prop := fun _ => True
    (∃ t, Template.parse .usual "<%= count(fn() -> 0) %>" = .ok t ∧
      context.AgreesOn all t.mentioned context ∧
      Scope.empty.AgreesOn all t.mentioned (.root [("x", .integer 1)]) ∧
      (t.renderOn .usual context .empty ⟨0, []⟩).1.mapError RenderError.diagnostic = .ok "0" ∧
      (t.renderOn .usual context (.root [("x", .integer 1)]) ⟨0, []⟩).1.mapError
        RenderError.diagnostic = .ok "1") ∧
    ∃ t, Template.parse .usual "<%= {a: 1}[b] %>" = .ok t ∧
      (t.renderOn .usual context same ⟨0, []⟩).1.mapError RenderError.diagnostic = .ok "1" ∧
      (t.renderOn .usual context apart ⟨0, []⟩).1.mapError RenderError.diagnostic =
        .error ⟨"MemberNotFound", "Member nan not found", some ⟨1, 11⟩⟩ := by
  intro count context same apart all
  let t : Template :=
    ⟨[.call ⟨1, 10⟩ (.name ⟨1, 5⟩ "count") [.function ⟨1, 11⟩ [] (.integer ⟨1, 19⟩ 0)]]⟩
  let u : Template :=
    ⟨[.index ⟨1, 11⟩ (.dictionary ⟨1, 5⟩ [(.name ⟨1, 6⟩ "a", .integer ⟨1, 9⟩ 1)])
      (.name ⟨1, 12⟩ "b")]⟩
  have hread : Template.parse .usual "<%= count(fn() -> 0) %>" = .ok t := by
    with_unfolding_all rfl
  have hread' : Template.parse .usual "<%= {a: 1}[b] %>" = .ok u := by
    with_unfolding_all rfl
  have hscope : Scope.empty.AgreesOn all t.mentioned (.root [("x", .integer 1)]) := by
    intro x hx
    obtain rfl : x = "count" := List.mem_singleton.mp hx
    exact ⟨rfl, nofun⟩
  have hcontext : context.AgreesOn all t.mentioned context :=
    ⟨fun _ _ => rfl, fun _ _ _ _ => trivial, rfl, rfl, rfl⟩
  refine ⟨⟨t, hread, hcontext, hscope, ?_, ?_⟩, u, hread', ?_, ?_⟩ <;>
    with_unfolding_all rfl

end Inlay
