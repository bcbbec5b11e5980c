/-!
# Switches on the command line

A switch has a long name and perhaps a letter. It may take a value: what
follows its letter, what stands after `=`, or the next word, whatever that is.
Letters without values may be written together. A hyphen alone is an ordinary
word, and after `--` all words are ordinary.
-/

namespace Inlay.Command

/-- A switch. -/
structure Switch where
  name : String
  letter? : Option Char
  takesValue : Bool
  deriving DecidableEq, Repr

/-- A switch as it was given. -/
structure Given where
  name : String
  value : String
  deriving DecidableEq, Repr

/-- A word of a command line that is no switch as it should be. -/
inductive SwitchFault where
  | unknown (word : String)
  | lacksValue (name : String)
  | takesNoValue (name : String)
  deriving DecidableEq, Repr

/-- The switches and the ordinary words of a command line. -/
structure Words where
  given : List Given
  ordinary : List String
  deriving DecidableEq, Repr

namespace Words

def none : Words := ⟨[], []⟩

def addOrdinary (word : String) (w : Words) : Words :=
  { w with ordinary := word :: w.ordinary }

/-- The values that were given for a switch, in order. -/
def values (w : Words) (name : String) : List String :=
  (w.given.filter (·.name == name)).map (·.value)

/-- How often a switch was given. -/
def count (w : Words) (name : String) : Nat := (w.values name).length

/-- Whether a switch was given. -/
def has (w : Words) (name : String) : Bool := w.count name != 0

end Words

/-- What a word asks for: switches that are complete, and perhaps one that takes
the next word as its value. -/
structure Asked where
  complete : List Given
  open? : Option String
  deriving DecidableEq, Repr

def readLetters (switches : List Switch) : List Char → Except SwitchFault Asked
  | [] => .ok ⟨[], none⟩
  | c :: rest =>
    match switches.find? (·.letter? == some c) with
    | none => .error (.unknown (String.ofList ['-', c]))
    | some s =>
      if !s.takesValue then
        (readLetters switches rest).map fun a => { a with complete := ⟨s.name, ""⟩ :: a.complete }
      else if rest.isEmpty then .ok ⟨[], some s.name⟩
      else .ok ⟨[⟨s.name, String.ofList rest⟩], none⟩

/-- Reads a word that starts with two hyphens. -/
def readLong (switches : List Switch) (word : List Char) : Except SwitchFault Asked :=
  let name := String.ofList ((word.drop 2).takeWhile (· != '='))
  match switches.find? (·.name == name), word.dropWhile (· != '=') with
  | none, _ => .error (.unknown (String.ofList word))
  | some s, [] => if s.takesValue then .ok ⟨[], some s.name⟩ else .ok ⟨[⟨s.name, ""⟩], none⟩
  | some s, _ :: value =>
    if s.takesValue then .ok ⟨[⟨s.name, String.ofList value⟩], none⟩
    else .error (.takesNoValue s.name)

/-- Reads a command line. Unless `mixed`, all words from the first ordinary one
on are ordinary. -/
def readWords (switches : List Switch) (mixed : Bool) : List String → Except SwitchFault Words
  | [] => .ok .none
  | word :: rest =>
    let cs := word.toList
    if word = "--" then .ok ⟨[], rest⟩
    else if cs.head? = some '-' && cs.length ≠ 1 then
      let asked :=
        if cs.take 2 = ['-', '-'] then readLong switches cs else readLetters switches (cs.drop 1)
      match asked with
      | .error f => .error f
      | .ok ⟨complete, none⟩ =>
        (readWords switches mixed rest).map fun w => { w with given := complete ++ w.given }
      | .ok ⟨complete, some name⟩ =>
        match rest with
        | [] => .error (.lacksValue name)
        | value :: rest =>
          (readWords switches mixed rest).map fun w =>
            { w with given := complete ++ ⟨name, value⟩ :: w.given }
    else if mixed then (readWords switches mixed rest).map (.addOrdinary word)
    else .ok ⟨[], word :: rest⟩

end Inlay.Command
