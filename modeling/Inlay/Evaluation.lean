import Inlay.Library
import Inlay.RenderError
import Inlay.Scope

/-!
# Evaluation

Expressions are evaluated in a scope. Names are looked up in the scope, then
in the registry, then among the two constants. A closure's body runs in a new
frame inside the scope that the closure captured, so names mean what they
meant where the closure was written.

How deep calls may nest is a budget that each active call takes one from.
Evaluating an expression recurses on its parts, calling a closure on the
budget; so evaluation ends, whatever functions are passed around.

It runs on a stack (`Stack`): going on to a part takes frames, and so does what is
done with names and values. Where there are not enough of them evaluation ends
early, whatever the budget. What a template means is what it renders as on a stack
without end.

Every call of a built-in function is counted, and routines of the host may
leave notes; both survive a failure.
-/

namespace Inlay

/-- What a routine of the host makes of its arguments. -/
inductive HostOutcome where
  | value (v : Value)
  | fault (className : String) (text : String)
  | stackExhausted
  deriving Repr

/-- The answer of a routine of the host, perhaps with a note for the record. -/
structure HostReply where
  outcome : HostOutcome
  note : Option (List String) := none
  deriving Repr

/-- The routines of a host, by name. -/
abbrev Host := String → List Value → HostReply

/-- A host without routines. -/
def Host.none : Host := fun name _ => ⟨.fault "RuntimeError" name, Option.none⟩

/-- What happened during evaluation: how many built-in functions were called,
and the notes that routines of the host left, first one first. -/
structure Record where
  calls : Nat
  notes : List (List String)
  deriving Repr, Inhabited

/-- What ends an evaluation early: an error, or the end of the stack. -/
inductive Halt where
  | error (e : RenderError)
  | stackExhausted
  deriving Repr

/-- An evaluation: it reads and extends the record, and ends with a result or
early. -/
abbrev Evaluated (α : Type) := ExceptT Halt (StateM Record) α

/-- What evaluation takes from its surroundings. -/
structure Context where
  registry : Registry
  host : Host
  /-- The time in milliseconds of the epoch. -/
  clock : Int
  /-- How deep calls may nest. -/
  limit : Nat

namespace Evaluation

/-- The ways from an expression to one that is evaluated for its value: to its
parts, and to the body of a closure that it calls. -/
inductive Part where
  | base
  | key
  | callee
  | argument
  | condition
  | branch
  | element
  | entry
  | body
  deriving DecidableEq, Repr

/-- What evaluation does besides going on to parts. -/
inductive Work where
  | lookup
  | capture
  | member
  | index
  | entryKey
  | routine (name : String)
  | check
  | text
  deriving DecidableEq, Repr

/-- The stack that an expression is evaluated on: the frames that are free, those on
the way to each part, and those that work takes on values which nest so deep. -/
structure Stack where
  room : Nat
  step : Part → Nat
  work : Work → Nat → Nat

namespace Stack

/-- A stack on which nothing takes a frame, so that it does not end. -/
def endless : Stack := ⟨0, fun _ => 0, fun _ _ => 0⟩

/-- The frames between an expression and its parts, with a frame for the rule that
evaluates it, and one more where parts are evaluated in a row or as a body. -/
def framesTo : Part → Nat
  | .argument | .body => 3
  | _ => 2

/-- The frames of work: for a name those of the chain of scopes, for a value two for
each level that it nests. -/
def framesFor : Work → Nat → Nat
  | .lookup, _ => 3
  | .capture, _ => 1
  | .member, _ => 5
  | .index, depth => 5 + 2 * depth
  | .entryKey, depth => 2 + 2 * depth
  | .routine _, depth => 6 + 2 * depth
  | .check, depth => 3 + 2 * depth
  | .text, depth => 1 + 2 * depth

/-- A stack of a thousand frames, less those that the program has in use. -/
def usual : Stack := ⟨992, framesTo, framesFor⟩

/-- Takes the frames on the way to a part. -/
def below (stack : Stack) (part : Part) : Evaluated Stack :=
  if stack.step part ≤ stack.room then
    pure { stack with room := stack.room - stack.step part }
  else throw .stackExhausted

/-- Asks for the frames of work on values which nest so deep. -/
def require (stack : Stack) (work : Work) (depth : Nat) : Evaluated Unit :=
  if stack.work work depth ≤ stack.room then pure () else throw .stackExhausted

end Stack

def fail {α : Type} (location : Location) (cause : RenderCause) : Evaluated α :=
  throw (.error ⟨cause, location⟩)

def mismatch {α : Type} (location : Location) (m : TypeMismatch) : Evaluated α :=
  fail location (.typeMismatch m)

/-- What a name means: its binding, else the function of that name, else a
constant. -/
def resolve (context : Context) (scope : Scope) (location : Location) (name : String) :
    Evaluated Value :=
  match scope.lookup name with
  | some v => pure v
  | none =>
    match context.registry.find? name with
    | some f => pure (.builtin f)
    | none =>
      if name = "true" then pure (.boolean true)
      else if name = "false" then pure (.boolean false)
      else fail location (.unresolved name)

/-- The value of `base.name`. -/
def member (location : Location) (base : Value) (name : String) : Evaluated Value :=
  match base with
  | .dictionary origin entries =>
    match Dictionary.getName? origin entries name with
    | some v => pure v
    | none => fail location (.memberNotFound (.string name))
  | v => mismatch location (.memberOf name v.typeName)

/-- The value of `base[key]`. -/
def index (location : Location) (base key : Value) : Evaluated Value :=
  match base with
  | .list _ elements =>
    match key with
    | .integer i =>
      if 0 ≤ i then
        match elements[i.toNat]? with
        | some v => pure v
        | none => fail location (.indexOutOfRange i elements.length)
      else fail location (.indexOutOfRange i elements.length)
    | key => mismatch location (.listIndex key.typeName)
  | .dictionary origin entries =>
    match Dictionary.lookup origin entries key with
    | .ok (some v) => pure v
    | .ok none => fail location (.memberNotFound key)
    | .error _ => mismatch location (.notAKey key.typeName)
  | v => mismatch location (.notIndexable v.typeName)

/-- A call, at a place, of a value with arguments. -/
abbrev Caller := Location → Value → List Value → Evaluated Value

mutual

/-- The value of an expression in a scope, where `call` calls functions. -/
def evalOn (stack : Stack) (context : Context) (call : Stack → Caller) (scope : Scope) :
    Expr → Evaluated Value
  | .string _ s => pure (.string s)
  | .integer _ n => pure (.integer n)
  | .float _ x => pure (.float x)
  | .name l name => do
    stack.require .lookup 0
    resolve context scope l name
  | .member l base name => do
    let b ← evalOn (← stack.below .base) context call scope base
    stack.require .member b.depth
    member l b name
  | .index l base key => do
    let b ← evalOn (← stack.below .base) context call scope base
    let k ← evalOn (← stack.below .key) context call scope key
    stack.require .index (max b.depth k.depth)
    index l b k
  | .call l function arguments => do
    let f ← evalOn (← stack.below .callee) context call scope function
    let vs ← evalAllOn (← stack.below .argument) context call scope arguments
    call stack l f vs
  | .choice l condition yes no => do
    let c ← evalOn (← stack.below .condition) context call scope condition
    let branch ← stack.below .branch
    match c with
    | .boolean true => evalOn branch context call scope yes
    | .boolean false => evalOn branch context call scope no
    | v => mismatch l (.condition v.typeName)
  | .list _ elements => do
    let vs ← evalAllOn (← stack.below .element) context call scope elements
    return .list .template vs
  | .dictionary _ entries => do
    let pairs ← evalEntriesOn (← stack.below .entry) context call scope entries
    return .dictionary .template (Dictionary.putAll Value.sameKey pairs)
  | .function _ parameters body => do
    stack.require .capture 0
    return .closure parameters body scope.frames

/-- The values of expressions, from left to right. -/
def evalAllOn (stack : Stack) (context : Context) (call : Stack → Caller) (scope : Scope) :
    List Expr → Evaluated (List Value)
  | [] => pure []
  | e :: rest => do
    let v ← evalOn stack context call scope e
    let vs ← evalAllOn stack context call scope rest
    return v :: vs

/-- The keys and values of entries, from left to right; a key is checked before
its value is evaluated. -/
def evalEntriesOn (stack : Stack) (context : Context) (call : Stack → Caller) (scope : Scope) :
    List (Expr × Expr) → Evaluated (List (Value × Value))
  | [] => pure []
  | (key, value) :: rest => do
    let k ← evalOn stack context call scope key
    stack.require .entryKey k.depth
    match k.keyFault? with
    | some _ => mismatch key.location (.notAKey k.typeName)
    | none => do
      let v ← evalOn stack context call scope value
      let pairs ← evalEntriesOn stack context call scope rest
      return (k, v) :: pairs

end

def runRoutine (context : Context) (location : Location) (f : Function)
    (arguments : List Value) : Evaluated Value := do
  let record ← get
  set { record with calls := record.calls + 1 }
  match f.routine with
  | .standard routine =>
    match routine.run ⟨context.clock, record.calls⟩ arguments with
    | .ok v => pure v
    | .error fault => fail location (.callFailed f.name (.fault fault))
  | .host name =>
    let reply := context.host name arguments
    match reply.note with
    | some note => modify fun r => { r with notes := r.notes ++ [note] }
    | none => pure ()
    match reply.outcome with
    | .value v => pure v
    | .fault className text =>
      fail location (.callFailed f.name (.fault (.host className text)))
    | .stackExhausted => throw .stackExhausted

/-- Calls a value when so many more calls may become active. -/
def callOn (context : Context) : (budget : Nat) → Stack → Caller
  | budget, stack, location, function, arguments =>
    match function with
    | .closure parameters body frames =>
      if arguments.length ≠ parameters.length then
        fail location (.arityMismatch parameters.length arguments.length)
      else
        match budget with
        | 0 => fail location (.callDepthExceeded context.limit)
        | left + 1 => do
          evalOn (← stack.below .body) context (callOn context left)
            ((Scope.mk frames).child (parameters.zip arguments)) body
    | .builtin f =>
      if !f.accepts arguments.length then
        fail location (.callFailed f.name (.arity f.arityText arguments.length))
      else if budget = 0 then fail location (.callDepthExceeded context.limit)
      else do
        stack.require (.routine f.name) (Value.depthAll arguments)
        let v ← runRoutine context location f arguments
        stack.require .check v.depth
        if v.isKnown then pure v
        else fail location (.callFailed f.name (.unsupported v.representationName))
    | v => mismatch location (.notCallable v.typeName)

/-- The texts of expressions, one after another. -/
def renderAllOn (stack : Stack) (context : Context) (scope : Scope) :
    List Expr → Evaluated String
  | [] => pure ""
  | e :: rest => do
    let v ← evalOn stack context (callOn context context.limit) scope e
    stack.require .text v.depth
    let text ← renderAllOn stack context scope rest
    return v.text ++ text

/-- The result of an evaluation; the end of the stack counts as an error at
`location`. -/
def settle {α : Type} (context : Context) (location : Location) (run : Evaluated α)
    (record : Record) : Except RenderError α × Record :=
  match run record with
  | (.ok a, r) => (.ok a, r)
  | (.error (.error e), r) => (.error e, r)
  | (.error .stackExhausted, r) => (.error ⟨.callDepthExceeded context.limit, location⟩, r)

/-! ## Without end -/

/-- The value of an expression on a stack without end. -/
def eval (context : Context) (call : Caller) (scope : Scope) : Expr → Evaluated Value :=
  evalOn .endless context (fun _ => call) scope

def evalAll (context : Context) (call : Caller) (scope : Scope) :
    List Expr → Evaluated (List Value) :=
  evalAllOn .endless context (fun _ => call) scope

def evalEntries (context : Context) (call : Caller) (scope : Scope) :
    List (Expr × Expr) → Evaluated (List (Value × Value)) :=
  evalEntriesOn .endless context (fun _ => call) scope

def callWithin (context : Context) (budget : Nat) : Caller := callOn context budget .endless

/-- The calls that may be made while none is active. -/
def caller (context : Context) : Caller := callWithin context context.limit

def renderAll (context : Context) (scope : Scope) : List Expr → Evaluated String :=
  renderAllOn .endless context scope

end Evaluation

namespace Template

/-- The text that a template renders as in a scope. -/
def renderOn (stack : Evaluation.Stack) (t : Template) (context : Context) (scope : Scope)
    (record : Record) : Except RenderError String × Record :=
  Evaluation.settle context t.location (Evaluation.renderAllOn stack context scope t.children)
    record

/-- The value of a template: that of its only expression, else its text. -/
def evaluateOn (stack : Evaluation.Stack) (t : Template) (context : Context) (scope : Scope)
    (record : Record) : Except RenderError Value × Record :=
  Evaluation.settle context t.location
    (match t.children with
    | [e] => Evaluation.evalOn stack context (Evaluation.callOn context context.limit) scope e
    | es => do
      let text ← Evaluation.renderAllOn stack context scope es
      return .string text)
    record

/-- What a template renders as, on a stack without end. -/
def render (t : Template) (context : Context) (scope : Scope) (record : Record) :
    Except RenderError String × Record :=
  t.renderOn .endless context scope record

/-- The value of a template, on a stack without end. -/
def evaluate (t : Template) (context : Context) (scope : Scope) (record : Record) :
    Except RenderError Value × Record :=
  t.evaluateOn .endless context scope record

end Template

end Inlay
