import Inlay.Proofs.Invariants

/-!
# The functions that a value holds

A value holds its elements, its entries and, if it is a closure, what its scope
binds (`Value.Part`). `Value.Holds P` says that every function which a value
holds in this way satisfies `P`.

No operation of the language comes to a function that it was not given
(`Value.Kept.likeness`): a value beside itself, as long as the functions in it
satisfy `P`, is a likeness, so all that is known about two runs side by side can
be used of one run. A host is `Context.Confined` if the routines that it
registers make no closures of their own either.
-/

namespace Inlay

namespace Value

/-! ## Parts -/

/-- What a value is or holds: elements, keys, values of keys, and the values that
a closure captured. -/
inductive Part (u : Value) : Value → Prop
  | self : Part u u
  | element {o : Origin} {vs : List Value} {v : Value} (hv : v ∈ vs) (h : Part u v) :
      Part u (.list o vs)
  | key {o : Origin} {es : List (Value × Value)} {p : Value × Value} (hp : p ∈ es)
      (h : Part u p.1) : Part u (.dictionary o es)
  | value {o : Origin} {es : List (Value × Value)} {p : Value × Value} (hp : p ∈ es)
      (h : Part u p.2) : Part u (.dictionary o es)
  | captured {ps : List String} {b : Expr} {frames : List Frame} {frame : Frame}
      {p : String × Value} (hframe : frame ∈ frames) (hp : p ∈ frame) (h : Part u p.2) :
      Part u (.closure ps b frames)

/-- All functions that a value holds satisfy `P`. -/
def Holds (P : Value → Prop) (v : Value) : Prop := ∀ u, Part u v → u.isCallable = true → P u

variable {P : Value → Prop}

theorem holds_integer (n : Int) : Holds P (.integer n) := by
  rintro _ ⟨⟩ ⟨⟩

theorem holds_float (x : Binary64) : Holds P (.float x) := by
  rintro _ ⟨⟩ ⟨⟩

theorem holds_string (s : String) : Holds P (.string s) := by
  rintro _ ⟨⟩ ⟨⟩

theorem holds_boolean (b : Bool) : Holds P (.boolean b) := by
  rintro _ ⟨⟩ ⟨⟩

theorem holds_builtin {f : Function} : Holds P (.builtin f) ↔ P (.builtin f) := by
  constructor
  · exact fun h => h _ .self rfl
  · rintro h _ ⟨⟩ _
    exact h

theorem holds_list {o : Origin} {vs : List Value} :
    Holds P (.list o vs) ↔ ∀ v ∈ vs, Holds P v := by
  constructor
  · exact fun h v hv u hu => h u (.element hv hu)
  · intro h u hu hcallable
    cases hu with
    | self => cases hcallable
    | element hv hu => exact h _ hv u hu hcallable

theorem holds_dictionary {o : Origin} {es : List (Value × Value)} :
    Holds P (.dictionary o es) ↔ ∀ p ∈ es, Holds P p.1 ∧ Holds P p.2 := by
  constructor
  · exact fun h p hp => ⟨fun u hu => h u (.key hp hu), fun u hu => h u (.value hp hu)⟩
  · intro h u hu hcallable
    cases hu with
    | self => cases hcallable
    | key hp hu => exact (h _ hp).1 u hu hcallable
    | value hp hu => exact (h _ hp).2 u hu hcallable

theorem holds_closure {ps : List String} {b : Expr} {frames : List Frame} :
    Holds P (.closure ps b frames) ↔
      P (.closure ps b frames) ∧ Frame.All (Holds P) frames := by
  constructor
  · exact fun h => ⟨h _ .self rfl, fun frame hframe p hp u hu => h u (.captured hframe hp hu)⟩
  · rintro ⟨hself, hframes⟩ u hu hcallable
    cases hu with
    | self => exact hself
    | captured hframe hp hu => exact hframes _ hframe _ hp u hu hcallable

/-! ## One run beside itself -/

/-- A value beside itself, if the functions that it holds satisfy `P`. -/
def Kept (P : Value → Prop) (v w : Value) : Prop := v = w ∧ Holds P v

theorem Kept.forall₂_iff {vs ws : List Value} :
    List.Forall₂ (Kept P) vs ws ↔ vs = ws ∧ ∀ v ∈ vs, Holds P v := forall₂_self_iff

theorem hereditary_holds : Hereditary (Holds P) where
  integer := holds_integer
  float := holds_float
  string := holds_string
  boolean := holds_boolean
  list := holds_list
  dictionary := holds_dictionary

/-- No operation of the language comes to a function that it was not given. -/
theorem Kept.likeness : Likeness (Kept P) := hereditary_holds.likeness

end Value

/-- A scope whose values are kept means the same as itself. -/
theorem Frame.All.means {P : Value → Prop} {s : Scope}
    (h : Frame.All (Value.Holds P) s.frames) : s.Means (Value.Kept P) s := by
  intro x
  cases hv : s.lookup x with
  | none => exact .none
  | some v => exact .some ⟨rfl, h.lookup hv⟩

/-! ## Hosts without closures of their own -/

/-- The functions of the host that a template can come by are among `own`: those
that it registers, and those that its routines return. A closure that a routine
returns was given to it, by itself or as part of an argument. -/
structure Context.Confined (context : Context) (own : Function → Prop) : Prop where
  registered : ∀ f ∈ context.registry.functions, own f
  returned : ∀ {f : Function} {routine : String} {vs : List Value} {v : Value}, own f →
    f.routine = .host routine → (context.host routine vs).outcome = .value v →
      v.Holds fun u => (∃ w ∈ vs, u.Part w) ∨ ∃ g, own g ∧ u = .builtin g

namespace Context.Confined

variable {context : Context} {own : Function → Prop} {P : Value → Prop}

/-- The library is confined to its own functions: none of its routines is a host's. -/
theorem of_library (h : context.registry = Library.registry) :
    context.Confined fun f => ∃ routine, f.routine = .standard routine where
  registered := h ▸ registry_standard
  returned := by
    rintro f routine vs v ⟨standard, hstandard⟩ hhost
    rw [hstandard] at hhost
    cases hhost

/-- What a routine of the host returns holds no functions but those of its
arguments and the host's own. -/
theorem holds (hown : context.Confined own) (hP : ∀ g, own g → P (.builtin g)) {f : Function}
    (hf : own f) {routine : String} (hroutine : f.routine = .host routine) {vs : List Value}
    (hvs : ∀ v ∈ vs, v.Holds P) {v : Value}
    (hv : (context.host routine vs).outcome = .value v) : v.Holds P := by
  intro u hu hcallable
  rcases hown.returned hf hroutine hv u hu hcallable with ⟨w, hw, hpart⟩ | ⟨g, hg, rfl⟩
  · exact hvs w hw u hpart hcallable
  · exact hP g hg

end Context.Confined

namespace Evaluation

variable {context : Context} {own : Function → Prop} {P : Value → Prop}
  {E : RenderError → RenderError → Prop}

/-- A call of a routine comes to a value that holds no functions but those of its
arguments and the host's own. -/
theorem agree_kept_routine (hown : context.Confined own) (hP : ∀ g, own g → P (.builtin g))
    {l : Location} (hl : Placed (Value.Kept P) E l l) {f : Function} (hf : own f)
    {vs ws : List Value} (h : List.Forall₂ (Value.Kept P) vs ws) :
    Agree E (Value.Kept P) (runRoutine context l f vs) (runRoutine context l f ws) := by
  cases hroutine : f.routine with
  | standard routine =>
      exact agree_runRoutine Value.Kept.likeness hl
        (.eq fun _ => ⟨rfl, Value.holds_float _⟩) rfl hroutine h
  | host routine =>
      obtain ⟨rfl, hvs⟩ := Value.Kept.forall₂_iff.mp h
      refine agree_hostRoutine hl rfl hroutine ⟨?_, rfl⟩
      cases houtcome : (context.host routine vs).outcome with
      | value v => exact .value ⟨rfl, hown.holds hP hf hroutine hvs houtcome⟩
      | fault className text => exact .fault className text
      | stackExhausted => exact .stackExhausted

end Evaluation

end Inlay
