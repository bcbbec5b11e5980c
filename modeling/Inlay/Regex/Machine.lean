import Inlay.Regex.Charset

/-!
# Matching by backtracking

A machine holds a place in the text, what the groups have captured, the tasks
that are left, and the choices it may come back to. Alternatives are tried from
left to right, and repetitions as their greed says. A look-around, an atomic
group and each round of a possessive repetition run on a machine of their own,
and once they have matched they are not tried again. A repetition that has its
least number of rounds stops after a round that takes up nothing.

The number of steps is bounded, by more than can be made.
-/

namespace Inlay.Regex

/-- A place in the text, and the start and end of what each group captured. -/
structure State where
  place : Nat
  captures : Array (Option (Nat × Nat))
  deriving Repr

/-- What is left to do, in order. -/
inductive Task where
  /-- To match parts in a row. -/
  | parts (flags : Flags) (nodes : List Node)
  /-- To note the end of a group that started at a given place. -/
  | close (group start : Nat)
  /-- To go on with a repetition after `rounds` rounds, the last of which started
  at `last` (if it did not have to be made). -/
  | again (flags : Flags) (greed : Greed) (least : Nat) (most : Option Nat)
      (body : List Node) (rounds : Nat) (last : Option Nat)
  deriving Repr

/-- What to come back to. -/
inductive Choice where
  /-- Other tasks at an earlier place. -/
  | resume (tasks : List Task) (state : State)
  /-- The same tasks after ever fewer characters, down to a place. -/
  | shrink (floor : Nat) (tasks : List Task) (state : State)
  /-- The same tasks after ever more characters that a part accepts. -/
  | grow (flags : Flags) (unit : Node) (room : Option Nat) (tasks : List Task) (state : State)
  deriving Repr

/-- A matching under way. `whole` says that it has to reach the end of the text. -/
structure Machine where
  text : Array Char
  whole : Bool
  tasks : List Task
  state : State
  choices : List Choice

namespace Machine

/-- The result of a step: the end of the matching, or the machine after it. -/
abbrev Step := Option State ⊕ Machine

/-- Whether more rounds are allowed after a number of them. -/
def below (n : Nat) : Option Nat → Bool
  | some most => n < most
  | none => true

/-- Comes back to the latest of the choices that is left. -/
def backTo (m : Machine) : List Choice → Step
  | [] => .inl none
  | .resume tasks state :: choices => .inr { m with tasks, state, choices }
  | .shrink floor tasks state :: choices =>
    let state := { state with place := state.place - 1 }
    let choices := if floor < state.place then .shrink floor tasks state :: choices else choices
    .inr { m with tasks, state, choices }
  | .grow flags unit room tasks state :: choices =>
    if below 0 room && (m.text[state.place]?).any (unit.accepts flags ·) then
      let state := { state with place := state.place + 1 }
      .inr { m with tasks, state,
                    choices := .grow flags unit (room.map (· - 1)) tasks state :: choices }
    else backTo m choices

/-- Comes back to the latest choice. -/
def back (m : Machine) : Step := backTo m m.choices

/-- The number of characters from a place on that a part accepts, at most `room`. -/
def countAccepted (text : Array Char) (flags : Flags) (unit : Node) (place : Nat) : Nat → Nat
  | 0 => 0
  | room + 1 =>
    match text[place]? with
    | none => 0
    | some c =>
      if unit.accepts flags c then countAccepted text flags unit (place + 1) room + 1 else 0

def go (m : Machine) (tasks : List Task) (place : Nat) : Step :=
  .inr { m with tasks, state := { m.state with place } }

/-- A repetition of a part that takes up one character. -/
def repeatUnit (m : Machine) (flags : Flags) (greed : Greed) (least : Nat) (most : Option Nat)
    (unit : Node) (tasks : List Task) : Step :=
  let place := m.state.place
  let left := m.text.size - place
  let wanted := match greed with
    | .lazy => least
    | _ => most.getD left
  let count := countAccepted m.text flags unit place (min wanted left)
  if count < least then back m
  else
    let state := { m.state with place := place + count }
    match greed with
    | .greedy =>
      let choices :=
        if least < count then .shrink (place + least) tasks state :: m.choices else m.choices
      .inr { m with tasks, state, choices }
    | .lazy =>
      .inr { m with tasks, state,
                    choices := .grow flags unit (most.map (· - least)) tasks state :: m.choices }
    | .possessive => .inr { m with tasks, state }

/-- The place after a second occurrence of what was captured. -/
def repeatCapture (text : Array Char) (flags : Flags) (place : Nat) : Nat → Nat → Option Nat
  | _, 0 => some place
  | start, length + 1 =>
    match text[place]?, text[start]? with
    | some c, some d =>
      if sameChar flags c d then repeatCapture text flags (place + 1) (start + 1) length
      else none
    | _, _ => none

def captured (m : Machine) (group : Nat) : Option (Nat × Nat) :=
  (m.state.captures[group]?).bind id

def apart (run : Machine → Option State) (m : Machine) (flags : Flags) (nodes : List Node)
    (place : Nat) : Option State :=
  run ⟨m.text, false, [.parts flags nodes], { m.state with place }, []⟩

/-- Goes on with a repetition. -/
def again (run : Machine → Option State) (m : Machine) (flags : Flags) (greed : Greed)
    (least : Nat) (most : Option Nat) (body : List Node) (rounds : Nat) (last : Option Nat)
    (tasks : List Task) : Step :=
  let place := m.state.place
  let round (last : Option Nat) : List Task :=
    .parts flags body :: .again flags greed least most body (rounds + 1) last :: tasks
  let more := below rounds most && last != some place
  match greed with
  | .greedy =>
    if rounds < least then .inr { m with tasks := round last }
    else if more then
      .inr { m with tasks := round (some place), choices := .resume tasks m.state :: m.choices }
    else .inr { m with tasks }
  | .lazy =>
    if rounds < least then .inr { m with tasks := round last }
    else if more then
      .inr { m with tasks, choices := .resume (round (some place)) m.state :: m.choices }
    else .inr { m with tasks }
  | .possessive =>
    if rounds < least || more then
      match apart run m flags body place with
      | some state =>
        let last := if rounds < least then last else some place
        .inr { m with state,
                      tasks := .again flags greed least most body (rounds + 1) last :: tasks }
      | none => if rounds < least then back m else .inr { m with tasks }
    else .inr { m with tasks }

/-- Matches one part, with `tasks` left after it. -/
def part (run : Machine → Option State) (m : Machine) (flags : Flags) (node : Node)
    (tasks : List Task) : Step :=
  let place := m.state.place
  match node with
  | .anchor a => if a.holds flags m.text place then .inr { m with tasks } else back m
  | .reference group =>
    match captured m group with
    | none => back m
    | some (start, finish) =>
      match repeatCapture m.text flags place start (finish - start) with
      | some place => go m tasks place
      | none => back m
  | .alternatives branches =>
    match branches with
    | [] => back m
    | [branch] => .inr { m with tasks := .parts flags branch :: tasks }
    | branch :: rest =>
      let other := .resume (.parts flags [.alternatives rest] :: tasks) m.state
      .inr { m with tasks := .parts flags branch :: tasks, choices := other :: m.choices }
  | .group number added removed body =>
    let tasks := match number with
      | some n => .close n place :: tasks
      | none => tasks
    .inr { m with tasks := .parts (flags.within added removed) body :: tasks }
  | .atomic body =>
    match apart run m flags body place with
    | some state => .inr { m with tasks, state }
    | none => back m
  | .repetition greed least most body =>
    match body with
    | [unit] =>
      if unit.isUnit then repeatUnit m flags greed least most unit tasks
      else again run m flags greed least most body 0 none tasks
    | _ => again run m flags greed least most body 0 none tasks
  | .look behind negated body =>
    let width := match behind with
      | some w => w.least
      | none => 0
    let found := if width ≤ place then apart run m flags body (place - width) else none
    match found, negated with
    | some state, false => .inr { m with tasks, state := { state with place } }
    | none, true => .inr { m with tasks }
    | _, _ => back m
  | .condition group yes no =>
    let branch := if (captured m group).isSome then yes else no
    .inr { m with tasks := .parts flags branch :: tasks }
  | unit =>
    match m.text[place]? with
    | some c => if unit.accepts flags c then go m tasks (place + 1) else back m
    | none => back m

def step (run : Machine → Option State) (m : Machine) : Step :=
  match m.tasks with
  | [] =>
    if m.whole && m.state.place != m.text.size then back m else .inl (some m.state)
  | .parts _ [] :: tasks => .inr { m with tasks }
  | .parts flags [node] :: tasks => part run m flags node tasks
  | .parts flags (node :: rest) :: tasks => part run m flags node (.parts flags rest :: tasks)
  | .close group start :: tasks =>
    let captures := m.state.captures.set! group (some (start, m.state.place))
    .inr { m with tasks, state := { m.state with captures } }
  | .again flags greed least most body rounds last :: tasks =>
    again run m flags greed least most body rounds last tasks

/-- Steps until the matching ends. -/
def run : Nat → Machine → Option State
  | 0, _ => none
  | steps + 1, m =>
    match step (run steps) m with
    | .inl result => result
    | .inr m => run steps m

/-- More steps than can be made. -/
def stepLimit : Nat := 0x4000000000000000

end Machine

def Expression.matchesWhole (e : Expression) (text : String) : Bool :=
  (Machine.run Machine.stepLimit
    ⟨text.toList.toArray, true, [.parts e.flags e.parts], ⟨0, .replicate e.groupCount none⟩,
      []⟩).isSome

end Inlay.Regex
