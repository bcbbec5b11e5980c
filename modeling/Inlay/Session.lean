import Inlay.Evaluation
import Inlay.Expr.Reader
import Inlay.Property
import Inlay.Report

/-!
# Sessions

A session keeps registries, scopes, templates, evaluators and saved values
under names of its own, over any number of requests. A request that fails
changes nothing but the record of calls.

A registry is a thing of its own: an evaluator that was given one sees the
functions that are added to it later, while a copy goes its own way. A host adds
functions of another registry, or such as it has built itself: whole ones
(`Request.provide`) or by their parts, of which the numbers of arguments are
checked (`Request.register`).
-/

namespace Inlay

/-- What a template is evaluated with: a registry and a limit on how deep
calls nest. -/
structure Evaluator where
  /-- The number of the registry; none for the empty one. -/
  registry : Option Nat
  limit : Nat
  deriving DecidableEq, Repr

/-- What a session runs on: the routines of a host, and the stacks for reading templates
and for evaluating them. -/
structure Machine where
  host : Host
  reader : Reader.Stack
  stack : Evaluation.Stack

/-- The state of a session. -/
structure Session where
  registries : List Registry
  registryNames : List (String × Nat)
  scopes : List (String × Scope)
  templates : List (String × Template)
  evaluators : List (String × Evaluator)
  slots : List (String × Value)
  record : Record
  deriving Inhabited

/-- Where the functions of a new registry come from. -/
inductive RegistrySource where
  | empty
  | library
  | copyOf (id : String)
  | functions (list : List (String × String))
  | built (functions : List Function)

/-- The template of a request: a text, or one that was kept. -/
inductive TemplateSource where
  | text (text : String)
  | kept (id : String)

/-- What the template of a request is evaluated in and with. -/
inductive EvaluationPlace where
  | parts (scope registry : Option String) (limit : Int)
  | evaluator (id : String) (scope : Option String)

/-- A request to a session. -/
inductive Request where
  | registry (id : String) (source : RegistrySource)
  | register (registry : String) (f : Function)
  | add (registry source name : String)
  | provide (registry : String) (f : Function)
  | get (registry name : String)
  | arity (registry name : String) (counts : List Int)
  | names (registry : String)
  | has (registry name : String)
  | list (registry : String)
  | scope (id : String) (bindings : List (String × Value)) (parent : Option String)
  | lookup (scope name : String)
  | binds (scope name : String)
  | scopeNames (scope : String)
  | isRoot (scope : String)
  | frames (scope : String)
  | template (id text : String) (name : Option String)
  | templateRender (id : String) (properties : List (String × Value))
      (registry : Option String) (limit : Int) (asValue : Bool)
  | evaluator (id : String) (registry : Option String) (limit : Int)
  | evaluate (source : TemplateSource) (place : EvaluationPlace) (asValue : Bool)
      (save : Option String)
  | text (slot : String)
  | equal (a b : String)
  | calls

/-- The answer to a request. -/
inductive Reply where
  | done
  | count (n : Nat)
  | boolean (b : Bool)
  | booleans (bs : List Bool)
  | text (s : String)
  | texts (ss : List String)
  | function (f : Function)
  | functions (fs : List Function)
  | value (v : Value)
  | frames (fs : List Frame)
  | notes (ns : List (List String))

/-- Why a request fails. -/
inductive SessionFault where
  | registry (f : RegistryFault)
  | limitTooLow
  | parse (f : ParseFailure)
  | render (e : RenderError)
  | notBound (name : String)
  | unknownId (id : String)

namespace Session

/-- The message about a limit below one. -/
def limitText : String := "max_call_depth must be at least 1"

/-- How deep calls nest unless a request says otherwise. -/
def defaultLimit : Int := 100

/-- The number under which the registry of the library is kept. -/
def libraryNumber : Nat := 0

/-- The state at the start: no names, and the registry of the library. -/
def start : Session := ⟨[Library.registry], [], [], [], [], [], default⟩

def checkLimit (limit : Int) : Except SessionFault Nat :=
  if limit < 1 then .error .limitTooLow else .ok limit.toNat

/-- Puts something under a name, in place of what it named before. -/
def keep {α : Type} (id : String) (a : α) (named : List (String × α)) : List (String × α) :=
  (id, a) :: named.filter fun (n, _) => n != id

/-- What a name stands for. -/
def find {α : Type} (named : List (String × α)) (id : String) : Except SessionFault α :=
  match named.lookup id with
  | some a => .ok a
  | none => .error (.unknownId id)

/-- The number and content of a named registry. -/
def registryOf (s : Session) (id : String) : Except SessionFault (Nat × Registry) := do
  let number ← find s.registryNames id
  return (number, s.registries.getD number .empty)

/-- Makes a new registry with a name. -/
def addRegistry (s : Session) (id : String) (r : Registry) : Session :=
  { s with
    registries := s.registries ++ [r]
    registryNames := keep id s.registries.length s.registryNames }

def setRegistry (s : Session) (number : Nat) (r : Registry) : Session :=
  { s with registries := s.registries.set number r }

def ofRegistry {α : Type} : Except RegistryFault α → Except SessionFault α
  | .ok a => .ok a
  | .error f => .error (.registry f)

def sourceRegistry (s : Session) : RegistrySource → Except SessionFault Registry
  | .empty => .ok .empty
  | .library => .ok Library.registry
  | .copyOf id => (s.registryOf id).map Prod.snd
  | .functions list => do
    let fs ← list.mapM fun (id, name) => do
      let (_, r) ← s.registryOf id
      ofRegistry (r.get name)
    ofRegistry (Registry.ofList fs)
  | .built functions => ofRegistry (Registry.ofList functions)

/-- A named scope; without a name, the one that binds nothing. -/
def scopeOf (s : Session) : Option String → Except SessionFault Scope
  | some id => find s.scopes id
  | none => .ok .empty

/-- The number of a named registry; none without a name. -/
def numberOf (s : Session) : Option String → Except SessionFault (Option Nat)
  | some id => (s.registryOf id).map fun r => some r.1
  | none => .ok none

/-- The registry of a number; the empty one without a number. -/
def numbered (s : Session) : Option Nat → Registry
  | some number => s.registries.getD number .empty
  | none => .empty

def parse (machine : Machine) (text : String) : Except SessionFault Template :=
  match Template.parse machine.reader text with
  | .ok t => .ok t
  | .error f => .error (.parse f)

/-- Evaluates a template, or renders it when no value is asked for. -/
def run (machine : Machine) (clock : Int) (s : Session) (t : Template) (registry : Registry)
    (limit : Nat) (scope : Scope) (asValue : Bool) : Except SessionFault Value × Session :=
  let context : Context := ⟨registry, machine.host, clock, limit⟩
  let (result, record) :=
    if asValue then t.evaluateOn machine.stack context scope s.record
    else
      let (r, record) := t.renderOn machine.stack context scope s.record
      (r.map Value.string, record)
  let s := { s with record := record }
  match result with
  | .ok v => (.ok v, s)
  | .error e => (.error (.render e), s)

def resolvePlace (s : Session) :
    EvaluationPlace → Except SessionFault (Scope × Registry × Nat)
  | .parts scope registry limit => do
    let sc ← s.scopeOf scope
    let number ← s.numberOf registry
    let l ← checkLimit limit
    return (sc, s.numbered number, l)
  | .evaluator id scope => do
    let e ← find s.evaluators id
    let sc ← s.scopeOf scope
    return (sc, s.numbered e.registry, e.limit)

def resolveTemplate (machine : Machine) (s : Session) :
    TemplateSource → Except SessionFault Template
  | .text text => parse machine text
  | .kept id => find s.templates id

/-- The answer to a request that changes names and registries only, and the
state after it. -/
def answer (machine : Machine) (s : Session) : Request → Except SessionFault (Reply × Session)
  | .registry id source => do
    let r ← s.sourceRegistry source
    return (.count r.size, s.addRegistry id r)
  | .register id f => do
    let (number, r) ← s.registryOf id
    let r' ← ofRegistry (r.register f)
    return (.done, s.setRegistry number r')
  | .add id source name => do
    let (number, r) ← s.registryOf id
    let (_, other) ← s.registryOf source
    let f ← ofRegistry (other.get name)
    let r' ← ofRegistry (r.add f)
    return (.done, s.setRegistry number r')
  | .provide id f => do
    let (number, r) ← s.registryOf id
    let r' ← ofRegistry (r.add f)
    return (.done, s.setRegistry number r')
  | .get id name => do
    let (_, r) ← s.registryOf id
    let f ← ofRegistry (r.get name)
    return (.function f, s)
  | .arity id name counts => do
    let (_, r) ← s.registryOf id
    let f ← ofRegistry (r.get name)
    return (.booleans (counts.map f.accepts), s)
  | .names id => do
    let (_, r) ← s.registryOf id
    return (.texts r.names, s)
  | .has id name => do
    let (_, r) ← s.registryOf id
    return (.boolean (r.contains name), s)
  | .list id => do
    let (_, r) ← s.registryOf id
    return (.functions r.functions, s)
  | .scope id bindings parent => do
    let scope ← match parent with
      | some p => (find s.scopes p).map fun sc => sc.child bindings
      | none => .ok (Scope.root bindings)
    return (.text scope.description, { s with scopes := keep id scope s.scopes })
  | .lookup id name => do
    let scope ← find s.scopes id
    match scope.lookup name with
    | some v => return (.value v, s)
    | none => .error (.notBound name)
  | .binds id name => do
    let scope ← find s.scopes id
    return (.boolean (scope.binds name), s)
  | .scopeNames id => do
    let scope ← find s.scopes id
    return (.texts (scope.names.mergeSort fun a b => decide (a ≤ b)), s)
  | .isRoot id => do
    let scope ← find s.scopes id
    return (.boolean scope.isRoot, s)
  | .frames id => do
    let scope ← find s.scopes id
    return (.frames scope.frames, s)
  | .template id text name => do
    let t ← parse machine text
    return (.text (t.description name), { s with templates := keep id t s.templates })
  | .evaluator id registry limit => do
    let number ← s.numberOf registry
    let l ← checkLimit limit
    return (.count l, { s with evaluators := keep id ⟨number, l⟩ s.evaluators })
  | .text slot => do
    let v ← find s.slots slot
    return (.text v.text, s)
  | .equal a b => do
    let v ← find s.slots a
    let w ← find s.slots b
    return (.boolean (v.equal w), s)
  | .calls => return (.notes s.record.notes, { s with record := { s.record with notes := [] } })
  | _ => .error (.unknownId "")

/-- Answers a request. -/
def step (machine : Machine) (clock : Int) (s : Session) (request : Request) :
    Except SessionFault Reply × Session :=
  match request with
  | .templateRender id properties registry limit asValue =>
    let prepared := do
      let t ← find s.templates id
      let number ← s.numberOf registry
      let l ← checkLimit limit
      return (t, s.numbered (some (number.getD libraryNumber)), l)
    match prepared with
    | .error f => (.error f, s)
    | .ok (t, r, l) =>
      let (result, s) := run machine clock s t r l (Scope.root properties) asValue
      (result.map Reply.value, s)
  | .evaluate source place asValue save =>
    let prepared := do
      let t ← s.resolveTemplate machine source
      let p ← s.resolvePlace place
      return (t, p)
    match prepared with
    | .error f => (.error f, s)
    | .ok (t, scope, r, l) =>
      match run machine clock s t r l scope asValue with
      | (.error f, s) => (.error f, s)
      | (.ok v, s) =>
        match save with
        | some slot => (.ok (.value v), { s with slots := keep slot v s.slots })
        | none => (.ok (.value v), s)
  | request =>
    match s.answer machine request with
    | .ok (reply, s') => (.ok reply, s')
    | .error f => (.error f, s)

end Session

end Inlay
