import Mathlib.Data.List.Duplicate
import Inlay.Proofs.Results
import Inlay.Session

/-!
# Registries over a session

Registries only grow, each on its own. What one request can do to them is said once
(`Session.Registers`): a function that is offered to a registry is refused, and then
nothing changes, or comes last in that registry alone; and a new registry is one
more, which starts with the functions of its source. So whatever else is asked in
between, a registry holds the functions it started with and those that were added to
it since, in that order (`Session.registries_appendOnly`).

Registries are told apart by their numbers, as a name can be given to another one
later. The invariant of a session (`Session.Sound`) says that the numbers in use
exist, that no registry has two functions of one name, and that the registry of the
library has no name through which it could be changed.
-/

namespace Inlay

/-! ## One registry -/

namespace Registry

/-- No two functions have one name. -/
def Distinct (r : Registry) : Prop := (r.functions.map Function.name).Nodup

theorem contains_iff {r : Registry} {name : String} :
    r.contains name = true ↔ name ∈ r.functions.map Function.name := by
  unfold contains find?
  rw [List.find?_isSome]
  simp

theorem add_of_mem {r : Registry} {f : Function} (h : f.name ∈ r.functions.map Function.name) :
    r.add f = .error (.duplicate f.name) := by
  unfold add
  rw [if_pos (contains_iff.mpr h)]

theorem add_of_notMem {r : Registry} {f : Function}
    (h : f.name ∉ r.functions.map Function.name) : r.add f = .ok ⟨r.functions ++ [f]⟩ := by
  unfold add
  rw [if_neg fun hcontains => h (contains_iff.mp hcontains)]

theorem Distinct.append {r : Registry} {f : Function} (h : r.Distinct)
    (hf : f.name ∉ r.functions.map Function.name) : Distinct ⟨r.functions ++ [f]⟩ := by
  unfold Distinct
  rw [List.map_append, List.map_singleton, List.nodup_append]
  refine ⟨h, List.nodup_singleton _, fun name hname other hother => ?_⟩
  rw [List.mem_singleton.mp hother]
  exact fun heq => hf (heq ▸ hname)

/-- Functions that are added one after another all come last, in their order, unless
two have one name. -/
theorem foldlM_add {r : Registry} (h : r.Distinct) (fs : List Function) :
    (((r.functions ++ fs).map Function.name).Nodup ∧ fs.foldlM add r = .ok ⟨r.functions ++ fs⟩) ∨
      ∃ name, List.Duplicate name ((r.functions ++ fs).map Function.name) ∧
        fs.foldlM add r = .error (.duplicate name) := by
  induction fs generalizing r with
  | nil =>
      rw [List.append_nil]
      exact .inl ⟨h, rfl⟩
  | cons f fs ih =>
      rw [List.foldlM_cons]
      by_cases hf : f.name ∈ r.functions.map Function.name
      · rw [add_of_mem hf]
        refine .inr ⟨f.name, List.duplicate_iff_sublist.mpr ?_, rfl⟩
        rw [List.map_append]
        exact (List.singleton_sublist.mpr hf).append
          (List.singleton_sublist.mpr (List.mem_map_of_mem List.mem_cons_self))
      · rw [add_of_notMem hf]
        have hrest := ih (h.append hf)
        rwa [List.append_assoc, List.singleton_append] at hrest

theorem ofList_cases (fs : List Function) :
    ((fs.map Function.name).Nodup ∧ ofList fs = .ok ⟨fs⟩) ∨
      ∃ name, List.Duplicate name (fs.map Function.name) ∧ ofList fs = .error (.duplicate name) :=
  foldlM_add (r := empty) List.nodup_nil fs

/-- What a registry has under a name it keeps when functions come last. -/
theorem find?_append {r : Registry} {name : String} {f : Function} (h : r.find? name = some f)
    (fs : List Function) : find? ⟨r.functions ++ fs⟩ name = some f := by
  unfold find? at h ⊢
  rw [List.find?_append, h]
  rfl

end Registry

namespace Session

/-! ## What requests ask of registries -/

def Names (s : Session) (id : String) (number : Nat) (r : Registry) : Prop :=
  s.registryNames.lookup id = some number ∧ s.registries[number]? = some r

/-- The number of the registry that a request would add a function to, and the
function. -/
def offer? (s : Session) : Request → Option (Nat × Function)
  | .register id f => do
    let number ← s.registryNames.lookup id
    return (number, f)
  | .provide id f => do
    let number ← s.registryNames.lookup id
    return (number, f)
  | .add id source name => do
    let number ← s.registryNames.lookup id
    let other ← s.registryNames.lookup source
    let r ← s.registries[other]?
    let f ← r.find? name
    return (number, f)
  | _ => none

/-- The functions that a new registry is to start with. -/
inductive Provides (s : Session) : RegistrySource → List Function → Prop
  | empty : s.Provides .empty []
  | library : s.Provides .library Library.registry.functions
  | copyOf {id : String} {number : Nat} {r : Registry} (h : s.Names id number r) :
      s.Provides (.copyOf id) r.functions
  | functions {list : List (String × String)} {fs : List Function}
      (h : List.Forall₂ (fun p f => ∃ number r, s.Names p.1 number r ∧ r.find? p.2 = some f)
        list fs) : s.Provides (.functions list) fs
  | built (fs : List Function) : s.Provides (.built fs) fs

/-- What comes of a function that is offered to a registry. -/
inductive Offered (s : Session) (request : Request) (number : Nat) (f : Function) :
    Except SessionFault Reply × Session → Prop
  /-- The greatest number of arguments is below the least one. -/
  | arity {id : String} {most : Int} (hrequest : request = .register id f)
      (hmost : f.maxArgs = some most) (h : most < f.minArgs) :
      Offered s request number f (.error (.registry (.arity f.minArgs most)), s)
  /-- The registry has a function of the name. -/
  | duplicate {r : Registry} (hr : s.registries[number]? = some r)
      (h : f.name ∈ r.functions.map Function.name) :
      Offered s request number f (.error (.registry (.duplicate f.name)), s)
  /-- The function comes last in the registry, and nothing else changes. -/
  | added {r : Registry} (hr : s.registries[number]? = some r)
      (h : f.name ∉ r.functions.map Function.name) :
      Offered s request number f (.ok .done,
        { s with registries := s.registries.set number ⟨r.functions ++ [f]⟩ })

/-- What comes of the request for a new registry. -/
inductive Made (s : Session) (id : String) (source : RegistrySource) :
    Except SessionFault Reply × Session → Prop
  /-- The registry is one more, with just the functions of its source. -/
  | fresh {fs : List Function} (h : s.Provides source fs)
      (hdistinct : (fs.map Function.name).Nodup) :
      Made s id source (.ok (.count fs.length),
        { s with
          registries := s.registries ++ [⟨fs⟩]
          registryNames := keep id s.registries.length s.registryNames })
  /-- Two of the functions have one name. -/
  | duplicate {fs : List Function} {name : String} (h : s.Provides source fs)
      (hname : List.Duplicate name (fs.map Function.name)) :
      Made s id source (.error (.registry (.duplicate name)), s)
  /-- A registry or a function that is named is not there. -/
  | missing {fault : SessionFault} (h : ∀ fs, ¬ s.Provides source fs) :
      Made s id source (.error fault, s)

/-- Two states have the same registries under the same names. -/
structure SameRegistries (s s' : Session) : Prop where
  registries : s'.registries = s.registries
  names : s'.registryNames = s.registryNames

/-- What a request does to the registries of a session. -/
structure Registers (s : Session) (request : Request)
    (outcome : Except SessionFault Reply × Session) : Prop where
  /-- A request that fails leaves the registries and their names alone. -/
  refused : ∀ fault, outcome.1 = .error fault → s.SameRegistries outcome.2
  /-- A function is refused or comes last in one registry. -/
  offered : ∀ number f, s.offer? request = some (number, f) → s.Offered request number f outcome
  /-- A new registry has the functions of its source. -/
  made : ∀ id source, request = .registry id source → s.Made id source outcome
  /-- All else leaves the registries and their names alone. -/
  other : s.offer? request = none → (∀ id source, request ≠ .registry id source) →
    s.SameRegistries outcome.2

def after (machine : Machine) (s : Session) (requests : List (Int × Request)) : Session :=
  requests.foldl (fun s p => (s.step machine p.1 p.2).2) s

def added (s : Session) (request : Request) (result : Except SessionFault Reply)
    (number : Nat) : List Function :=
  match result, s.offer? request with
  | .ok _, some (n, f) => if n = number then [f] else []
  | _, _ => []

/-- The functions that some requests add to a registry, in order. -/
def additions (machine : Machine) (number : Nat) : Session → List (Int × Request) → List Function
  | _, [] => []
  | s, (clock, request) :: rest =>
    let (result, s') := s.step machine clock request
    s.added request result number ++ additions machine number s' rest

/-- What holds of the registries of a session at any time. -/
structure Sound (s : Session) : Prop where
  numbered : ∀ p ∈ s.registryNames, 0 < p.2 ∧ p.2 < s.registries.length
  distinct : ∀ r ∈ s.registries, r.Distinct
  library : s.registries[0]? = some Library.registry

/-! ## Names -/

theorem mem_keep {α : Type} {id : String} {a : α} {named : List (String × α)} {p : String × α}
    (h : p ∈ keep id a named) : p = (id, a) ∨ p ∈ named :=
  (List.mem_cons.mp h).imp_right List.mem_of_mem_filter

section

variable {s : Session} {id : String}

theorem Names.registryOf {number : Nat} {r : Registry} (h : s.Names id number r) :
    s.registryOf id = .ok (number, r) := by
  have hget : s.registries.getD number .empty = r := by
    rw [List.getD_eq_getElem?_getD, h.2]
    rfl
  unfold Session.registryOf find
  rw [h.1]
  change Except.ok (number, s.registries.getD number .empty) = _
  rw [hget]

theorem registryOf_of_none (h : s.registryNames.lookup id = none) :
    s.registryOf id = .error (.unknownId id) := by
  unfold registryOf find
  rw [h]
  rfl

theorem Sound.lookup (hs : s.Sound) {number : Nat}
    (h : s.registryNames.lookup id = some number) : 0 < number ∧ ∃ r, s.Names id number r := by
  obtain ⟨before, after, hsplit, -⟩ := List.lookup_eq_some_iff.mp h
  have hmem : (id, number) ∈ s.registryNames := by simp [hsplit]
  obtain ⟨hpos, hlt⟩ := hs.numbered _ hmem
  exact ⟨hpos, _, h, List.getElem?_eq_getElem hlt⟩

/-- A name stands for nothing or for one registry. -/
theorem Sound.registryOf_cases (hs : s.Sound) (id : String) :
    (s.registryNames.lookup id = none ∧ s.registryOf id = .error (.unknownId id)) ∨
      ∃ number r, 0 < number ∧ s.Names id number r ∧ s.registryOf id = .ok (number, r) := by
  cases h : s.registryNames.lookup id with
  | none => exact .inl ⟨rfl, registryOf_of_none h⟩
  | some number =>
      obtain ⟨hpos, r, hr⟩ := hs.lookup h
      exact .inr ⟨number, r, hpos, hr, hr.registryOf⟩

end

/-! ## The functions of a new registry -/

/-- A function that is named by its registry and its own name. -/
def functionOf (s : Session) (p : String × String) : Except SessionFault Function := do
  let (_, r) ← s.registryOf p.1
  ofRegistry (r.get p.2)

theorem functionOf_eq_ok_iff {s : Session} (hs : s.Sound) {p : String × String} {f : Function} :
    s.functionOf p = .ok f ↔ ∃ number r, s.Names p.1 number r ∧ r.find? p.2 = some f := by
  unfold functionOf
  constructor
  · intro h
    rcases hs.registryOf_cases p.1 with ⟨-, hfail⟩ | ⟨number, r, -, hr, hok⟩
    · rw [hfail] at h
      cases h
    · rw [hok] at h
      change ofRegistry (r.get p.2) = .ok f at h
      refine ⟨number, r, hr, ?_⟩
      unfold Registry.get at h
      cases hfind : r.find? p.2 with
      | none => rw [hfind] at h; cases h
      | some g => rw [hfind] at h; cases h; rfl
  · rintro ⟨number, r, hr, hfind⟩
    rw [hr.registryOf]
    change ofRegistry (r.get p.2) = .ok f
    unfold Registry.get
    rw [hfind]
    rfl

theorem sourceRegistry_functions (s : Session) (list : List (String × String)) :
    s.sourceRegistry (.functions list) =
      list.mapM s.functionOf >>= fun fs => ofRegistry (Registry.ofList fs) := rfl

theorem ofList_of_distinct {r : Registry} (h : r.Distinct) :
    Registry.ofList r.functions = .ok r := by
  rcases Registry.ofList_cases r.functions with ⟨-, hok⟩ | ⟨name, hname, -⟩
  · exact hok
  · exact absurd h (List.exists_duplicate_iff_not_nodup.mp ⟨name, hname⟩)

section

variable {s : Session} (hs : s.Sound) {source : RegistrySource}
include hs

/-- The functions of a source are added one after another. -/
theorem sourceRegistry_of_provides {fs : List Function} (h : s.Provides source fs) :
    s.sourceRegistry source = ofRegistry (Registry.ofList fs) := by
  cases h with
  | empty => rfl
  | library =>
      rw [ofList_of_distinct (hs.distinct _ (List.mem_of_getElem? hs.library))]
      rfl
  | copyOf h =>
      rw [ofList_of_distinct (hs.distinct _ (List.mem_of_getElem? h.2)), sourceRegistry,
        h.registryOf]
      rfl
  | functions h =>
      have hlist := mapM_eq_ok_iff.mpr (h.imp fun _ _ hf => (functionOf_eq_ok_iff hs).mpr hf)
      rw [sourceRegistry_functions, hlist]
      rfl
  | built => rfl

theorem sourceRegistry_missing (h : ∀ fs, ¬ s.Provides source fs) :
    ∃ fault, s.sourceRegistry source = .error fault := by
  cases source with
  | empty => exact absurd .empty (h _)
  | library => exact absurd .library (h _)
  | built fs => exact absurd (.built fs) (h _)
  | copyOf id =>
      rcases hs.registryOf_cases id with ⟨-, hfail⟩ | ⟨number, r, -, hr, -⟩
      · rw [sourceRegistry, hfail]
        exact ⟨_, rfl⟩
      · exact absurd (.copyOf hr) (h _)
  | functions list =>
      rw [sourceRegistry_functions]
      cases hlist : list.mapM s.functionOf with
      | error fault => exact ⟨fault, rfl⟩
      | ok fs =>
          have hall := (mapM_eq_ok_iff.mp hlist).imp fun _ _ hf => (functionOf_eq_ok_iff hs).mp hf
          exact absurd (.functions hall) (h fs)

end

/-! ## One request -/

/-- The outcome of an answer: the state of a request that fails stays. -/
def settle (s : Session) (answer : Except SessionFault (Reply × Session)) :
    Except SessionFault Reply × Session :=
  match answer with
  | .ok (reply, s') => (.ok reply, s')
  | .error fault => (.error fault, s)

theorem made (machine : Machine) {s : Session} (hs : s.Sound) (id : String)
    (source : RegistrySource) :
    s.Made id source (s.settle (s.answer machine (.registry id source))) := by
  rw [answer]
  by_cases h : ∃ fs, s.Provides source fs
  · obtain ⟨fs, h⟩ := h
    rw [sourceRegistry_of_provides hs h]
    rcases Registry.ofList_cases fs with ⟨hdistinct, hok⟩ | ⟨name, hname, hfail⟩
    · rw [hok]
      exact .fresh h hdistinct
    · rw [hfail]
      exact .duplicate h hname
  · have hmissing := not_exists.mp h
    obtain ⟨fault, hfail⟩ := sourceRegistry_missing hs hmissing
    rw [hfail]
    exact .missing hmissing

/-! ### Requests that have nothing to do with registries -/

/-- An answer, if there is one, leaves the registries alone. -/
def Leaves (s : Session) (answer : Except SessionFault (Reply × Session)) : Prop :=
  ∀ reply s', answer = .ok (reply, s') → s.SameRegistries s'

namespace Leaves

variable {s s' : Session} {α : Type}

theorem error {fault : SessionFault} : Leaves s (.error fault) := by
  intro _ _ h
  cases h

theorem ok {reply : Reply} (h : s.SameRegistries s') : Leaves s (.ok (reply, s')) := by
  intro _ _ heq
  cases heq
  exact h

theorem bind {x : Except SessionFault α} {f : α → Except SessionFault (Reply × Session)}
    (h : ∀ a, Leaves s (f a)) : Leaves s (x >>= f) := by
  cases x with
  | error fault => exact error
  | ok a => exact h a

theorem settle {answer : Except SessionFault (Reply × Session)} (h : Leaves s answer) :
    s.SameRegistries (s.settle answer).2 := by
  cases answer with
  | error fault => exact ⟨rfl, rfl⟩
  | ok p => exact h p.1 p.2 rfl

end Leaves

/-- Evaluating changes no more than the record of calls and the saved values. -/
def Evaluated (s s' : Session) : Prop :=
  ∃ record slots, s' = { s with record := record, slots := slots }

theorem Evaluated.sameRegistries {s s' : Session} (h : s.Evaluated s') : s.SameRegistries s' := by
  obtain ⟨_, _, rfl⟩ := h
  exact ⟨rfl, rfl⟩

/-- What an offered function changes: a registry takes it in, if it can. -/
def addition (s : Session) (number : Nat) (change : Except RegistryFault Registry) :
    Except SessionFault (Reply × Session) := do
  let r ← ofRegistry change
  return (.done, s.setRegistry number r)

/-- A request offers a function to a registry that has a name, or it makes a new
registry, or it leaves the registries alone. -/
theorem offer_cases (machine : Machine) {s : Session} (hs : s.Sound) (request : Request) :
    (∃ id number r f change, 0 < number ∧ s.Names id number r ∧
      s.offer? request = some (number, f) ∧ s.answer machine request = s.addition number change ∧
      (change = r.add f ∨ request = .register id f ∧ change = r.register f)) ∨
    s.offer? request = none ∧
      ((∃ id source, request = .registry id source) ∨ Leaves s (s.answer machine request)) := by
  have hrefl : s.SameRegistries s := ⟨rfl, rfl⟩
  cases request with
  | registry id source => exact .inr ⟨rfl, .inl ⟨id, source, rfl⟩⟩
  | register id f =>
      rcases hs.registryOf_cases id with ⟨hnone, hfail⟩ | ⟨number, r, hpos, hr, hok⟩
      · rw [offer?, hnone, answer, hfail]
        exact .inr ⟨rfl, .inr .error⟩
      · rw [offer?, hr.1, answer, hok]
        exact .inl ⟨id, number, r, f, _, hpos, hr, rfl, rfl, .inr ⟨rfl, rfl⟩⟩
  | provide id f =>
      rcases hs.registryOf_cases id with ⟨hnone, hfail⟩ | ⟨number, r, hpos, hr, hok⟩
      · rw [offer?, hnone, answer, hfail]
        exact .inr ⟨rfl, .inr .error⟩
      · rw [offer?, hr.1, answer, hok]
        exact .inl ⟨id, number, r, f, _, hpos, hr, rfl, rfl, .inl rfl⟩
  | add id source name =>
      rcases hs.registryOf_cases id with ⟨hnone, hfail⟩ | ⟨number, r, hpos, hr, hok⟩
      · rw [offer?, hnone, answer, hfail]
        exact .inr ⟨rfl, .inr .error⟩
      · rcases hs.registryOf_cases source with ⟨hnone, hfail⟩ | ⟨other, r', -, hr', hok'⟩
        · rw [offer?, hr.1, hnone, answer, hok, hfail]
          exact .inr ⟨rfl, .inr .error⟩
        · have hoffer : s.offer? (.add id source name) =
              (r'.find? name).map fun f => (number, f) := by
            rw [offer?, hr.1, hr'.1]
            change (s.registries[other]? >>= _) = _
            rw [hr'.2]
            change (r'.find? name >>= _) = _
            cases r'.find? name <;> rfl
          have hanswer : s.answer machine (.add id source name) =
              ofRegistry (r'.get name) >>= fun f => s.addition number (r.add f) := by
            rw [answer, hok, hok']
            rfl
          rw [hoffer, hanswer, Registry.get]
          cases r'.find? name with
          | none => exact .inr ⟨rfl, .inr .error⟩
          | some f => exact .inl ⟨id, number, r, f, _, hpos, hr, rfl, rfl, .inl rfl⟩
  | get | arity => exact .inr ⟨rfl, .inr (.bind fun _ => .bind fun _ => .ok hrefl)⟩
  | names | has | list | binds | scopeNames | isRoot | frames | text =>
      exact .inr ⟨rfl, .inr (.bind fun _ => .ok hrefl)⟩
  | equal => exact .inr ⟨rfl, .inr (.bind fun _ => .bind fun _ => .ok hrefl)⟩
  | evaluator => exact .inr ⟨rfl, .inr (.bind fun _ => .bind fun _ => .ok ⟨rfl, rfl⟩)⟩
  | template => exact .inr ⟨rfl, .inr (.bind fun _ => .ok ⟨rfl, rfl⟩)⟩
  | scope id bindings parent =>
      cases parent <;> exact .inr ⟨rfl, .inr (.bind fun _ => .ok ⟨rfl, rfl⟩)⟩
  | lookup id name =>
      refine .inr ⟨rfl, .inr (.bind fun scope => ?_)⟩
      split
      · exact .ok hrefl
      · exact .error
  | calls => exact .inr ⟨rfl, .inr (.ok ⟨rfl, rfl⟩)⟩
  | templateRender | evaluate => exact .inr ⟨rfl, .inr .error⟩

theorem offered_add {s : Session} {request : Request} {number : Nat} {r : Registry} {f : Function}
    (hr : s.registries[number]? = some r) :
    s.Offered request number f (s.settle (s.addition number (r.add f))) := by
  by_cases hf : f.name ∈ r.functions.map Function.name
  · rw [Registry.add_of_mem hf]
    exact .duplicate hr hf
  · rw [Registry.add_of_notMem hf]
    exact .added hr hf

theorem offered_register {s : Session} {id : String} {number : Nat} {r : Registry} {f : Function}
    (hr : s.registries[number]? = some r) :
    s.Offered (.register id f) number f (s.settle (s.addition number (r.register f))) := by
  unfold Registry.register
  cases hmost : f.maxArgs with
  | none => exact offered_add hr
  | some most =>
      dsimp only
      split_ifs with hlt
      · exact .arity rfl hmost hlt
      · exact offered_add hr

theorem run_evaluated (machine : Machine) (clock : Int) (s : Session) (t : Template)
    (registry : Registry) (limit : Nat) (scope : Scope) (asValue : Bool) :
    s.Evaluated (run machine clock s t registry limit scope asValue).2 := by
  unfold run
  dsimp only
  split <;> exact ⟨_, _, rfl⟩

/-- Requests that are no evaluations are answered. -/
theorem step_cases (machine : Machine) (clock : Int) (s : Session) (request : Request) :
    s.Evaluated (s.step machine clock request).2 ∨
      s.step machine clock request = s.settle (s.answer machine request) := by
  cases request with
  | templateRender id properties registry limit asValue =>
      left
      rw [step]
      dsimp only
      split
      · exact ⟨_, _, rfl⟩
      · exact run_evaluated ..
  | evaluate source place asValue save =>
      left
      rw [step]
      split
      · exact ⟨_, _, rfl⟩
      · rename_i t scope r l _
        have hrun := run_evaluated machine clock s t r l scope asValue
        split <;> rename_i hresult <;> rw [hresult] at hrun
        · exact hrun
        · split
          · obtain ⟨record, slots, rfl⟩ := hrun
            exact ⟨record, _, rfl⟩
          · exact hrun
  | _ => exact .inr rfl

/-- What one request does to the registries. -/
theorem step_registers {s : Session} (hs : s.Sound) (machine : Machine) (clock : Int)
    (request : Request) : s.Registers request (s.step machine clock request) where
  refused fault hfault := by
    rcases step_cases machine clock s request with hevaluated | hanswer
    · exact hevaluated.sameRegistries
    · rw [hanswer] at hfault ⊢
      cases h : s.answer machine request with
      | error fault' => exact ⟨rfl, rfl⟩
      | ok p => rw [h] at hfault; cases hfault
  offered number f hoffer := by
    rcases offer_cases machine hs request with
      ⟨id, number', r, f', change, -, hr, hoffer', hanswer, hchange⟩ | ⟨hnone, -⟩
    · obtain ⟨rfl, rfl⟩ : number' = number ∧ f' = f := by simpa using hoffer'.symm.trans hoffer
      -- what offers a function is not evaluated
      have hstep : s.step machine clock request = s.settle (s.answer machine request) := by
        cases request <;> first | rfl | cases hoffer
      rw [hstep, hanswer]
      rcases hchange with rfl | ⟨rfl, rfl⟩
      · exact offered_add hr.2
      · exact offered_register hr.2
    · rw [hnone] at hoffer
      cases hoffer
  made id source hrequest := by
    subst hrequest
    exact made machine hs id source
  other hoffer hnew := by
    rcases step_cases machine clock s request with hevaluated | hanswer
    · exact hevaluated.sameRegistries
    · rw [hanswer]
      rcases offer_cases machine hs request with ⟨_, _, _, _, _, -, -, hsome, -⟩ | ⟨-, hnot⟩
      · rw [hoffer] at hsome
        cases hsome
      · rcases hnot with ⟨id, source, hrequest⟩ | hleaves
        · exact absurd hrequest (hnew id source)
        · exact hleaves.settle

/-! ## A session -/

theorem SameRegistries.sound {s s' : Session} (h : s.SameRegistries s') (hs : s.Sound) :
    s'.Sound where
  numbered := by
    rw [h.names, h.registries]
    exact hs.numbered
  distinct := by
    rw [h.registries]
    exact hs.distinct
  library := by
    rw [h.registries]
    exact hs.library

theorem Sound.start : start.Sound where
  numbered _ h := by cases h
  distinct r h := by
    rw [List.mem_singleton.mp h]
    unfold Registry.Distinct
    decide
  library := rfl

section

variable {s : Session} {request : Request} {outcome : Except SessionFault Reply × Session}
  (h : s.Registers request outcome)
include h

theorem Registers.sound (hs : s.Sound) : outcome.2.Sound := by
  cases hoffer : s.offer? request with
  | some p =>
      obtain ⟨number, f⟩ := p
      have hpos : 0 < number := by
        -- which function is offered does not depend on the machine
        rcases offer_cases ⟨Host.none, .usual, .usual⟩ hs request with
          ⟨_, _, _, _, _, hpos, -, hsome, -⟩ | ⟨hnone, -⟩
        · rw [hoffer] at hsome
          cases hsome
          exact hpos
        · rw [hoffer] at hnone
          cases hnone
      cases h.offered number f hoffer with
      | arity | duplicate => exact hs
      | @added r hr hf =>
          refine ⟨?_, fun r' hr' => ?_, ?_⟩
          · dsimp only
            rw [List.length_set]
            exact hs.numbered
          · rcases List.mem_or_eq_of_mem_set hr' with hold | rfl
            · exact hs.distinct r' hold
            · exact (hs.distinct r (List.mem_of_getElem? hr)).append hf
          · rw [List.getElem?_set_ne (Nat.ne_of_gt hpos), hs.library]
  | none =>
      by_cases hnew : ∃ id source, request = .registry id source
      · obtain ⟨id, source, rfl⟩ := hnew
        cases h.made id source rfl with
        | duplicate | missing => exact hs
        | @fresh fs _ hdistinct =>
            refine ⟨fun p hp => ?_, fun r hr => ?_, ?_⟩
            · dsimp only
              rw [List.length_append, List.length_singleton]
              rcases mem_keep hp with rfl | hold
              · exact ⟨(List.getElem?_eq_some_iff.mp hs.library).1, Nat.lt_succ_self _⟩
              · have hnumber := hs.numbered p hold
                omega
            · rcases List.mem_append.mp hr with hold | hlast
              · exact hs.distinct r hold
              · rw [List.mem_singleton.mp hlast]
                exact hdistinct
            · rw [List.getElem?_append_left (List.getElem?_eq_some_iff.mp hs.library).1,
                hs.library]
      · exact (h.other hoffer fun id source heq => hnew ⟨id, source, heq⟩).sound hs

/-- A registry keeps its functions, and what the request adds comes last. -/
theorem Registers.grows {number : Nat} {r : Registry} (hr : s.registries[number]? = some r) :
    outcome.2.registries[number]? =
      some ⟨r.functions ++ s.added request outcome.1 number⟩ := by
  cases hoffer : s.offer? request with
  | some p =>
      obtain ⟨n, f⟩ := p
      unfold added
      rw [hoffer]
      cases h.offered n f hoffer with
      | arity | duplicate =>
          dsimp only
          rw [List.append_nil, hr]
      | @added r' hr' _ =>
          dsimp only
          split_ifs with hn
          · subst hn
            obtain rfl : r' = r := Option.some.inj (hr'.symm.trans hr)
            rw [List.getElem?_set_self (List.getElem?_eq_some_iff.mp hr).1]
          · rw [List.getElem?_set_ne hn, List.append_nil, hr]
  | none =>
      have hnone : s.added request outcome.1 number = [] := by
        unfold added
        rw [hoffer]
        cases outcome.1 <;> rfl
      rw [hnone, List.append_nil]
      by_cases hnew : ∃ id source, request = .registry id source
      · obtain ⟨id, source, rfl⟩ := hnew
        cases h.made id source rfl with
        | duplicate | missing => exact hr
        | fresh =>
            rw [List.getElem?_append_left (List.getElem?_eq_some_iff.mp hr).1, hr]
      · rw [(h.other hoffer fun id source heq => hnew ⟨id, source, heq⟩).registries, hr]

end

section

variable (machine : Machine)

theorem Sound.after {s : Session} (hs : s.Sound) (requests : List (Int × Request)) :
    (s.after machine requests).Sound := by
  induction requests generalizing s with
  | nil => exact hs
  | cons p rest ih => exact ih ((step_registers hs machine p.1 p.2).sound hs)

/-- A registry holds what it started with and then what was added to it. -/
theorem registries_after {s : Session} (hs : s.Sound) (requests : List (Int × Request))
    {number : Nat} {r : Registry} (hr : s.registries[number]? = some r) :
    (s.after machine requests).registries[number]? =
      some ⟨r.functions ++ additions machine number s requests⟩ := by
  induction requests generalizing s r with
  | nil =>
      rw [additions, List.append_nil]
      exact hr
  | cons p rest ih =>
      obtain ⟨clock, request⟩ := p
      have hstep := step_registers hs machine clock request
      rw [additions]
      dsimp only
      rw [← List.append_assoc]
      exact ih (hstep.sound hs) (hstep.grows hr)

/-- Registries are kept apart and only grow, whatever is asked of a session. At any
time no registry has two functions of one name, and that of the library is as it was
at the start. A request does to the registries what `Registers` says: one that fails
leaves them as they are, one that adds a function puts it last in its own registry,
and a new registry starts with just the functions of its source. From then on each
registry, the source and its copy alike, holds what it held and after it what was
added to it by its own number, in order; and what it has under a name it keeps. -/
theorem registries_appendOnly (before : List (Int × Request)) (clock : Int)
    (request : Request) (later : List (Int × Request)) :
    let s := start.after machine before
    let s' := (s.step machine clock request).2
    (∀ r ∈ s.registries, (r.functions.map Function.name).Nodup) ∧
    s.registries[0]? = some Library.registry ∧
    s.Registers request (s.step machine clock request) ∧
    ∀ number r, s'.registries[number]? = some r →
      (s'.after machine later).registries[number]? =
        some ⟨r.functions ++ additions machine number s' later⟩ ∧
      ∀ name f, r.find? name = some f →
        Registry.find? ⟨r.functions ++ additions machine number s' later⟩ name = some f := by
  intro s s'
  have hs : s.Sound := Sound.start.after machine before
  have hstep : s.Registers request (s.step machine clock request) :=
    step_registers hs machine clock request
  refine ⟨hs.distinct, hs.library, hstep, fun number r hr => ⟨?_, fun name f hf => ?_⟩⟩
  · exact registries_after machine (hstep.sound hs) later hr
  · exact Registry.find?_append hf _

/-- A copy and its source each get a function of one name. -/
example :
    let f (description : String) : Function := ⟨"f", .host "echo", 0, none, description⟩
    let s := start.after ⟨Host.none, .usual, .usual⟩
      [(0, .registry "a" .empty), (0, .registry "b" (.copyOf "a")),
      (0, .register "b" (f "of b")), (0, .provide "a" (f "of a")), (0, .add "a" "b" "f")]
    s.registries[1]? = some ⟨[f "of a"]⟩ ∧ s.registries[2]? = some ⟨[f "of b"]⟩ := by
  decide

end

end Session

end Inlay
