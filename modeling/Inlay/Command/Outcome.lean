import Inlay.FaultClass
import Inlay.Log.Writer

/-!
# Outcomes of commands

How a command ends, and what it leaves: what it prints, the records it writes
and the file it writes. A command line that cannot be understood prints how it
should look. A fault that is nobody's concern but the programmer's ends the
program without a message of its own.
-/

namespace Inlay.Command

/-- How a command ends. -/
inductive Ending where
  | success
  | failure
  | misuse
  | broken (c : FaultClass) (text : String)
  deriving DecidableEq, Repr

def Ending.code : Ending → Nat
  | success => 0
  | failure => 1
  | misuse => 2
  | broken _ _ => 1

def asLine (s : String) : String := s ++ "\n"

/-- What comes on the standard output: records that were made before it was known which
ones are written and where, and then text. -/
structure Output where
  early : List Log.Record := []
  text : String := ""
  deriving Repr

def recordLines (stamp : String) (records : List Log.Record) : String :=
  String.join (records.map fun r => asLine (stamp ++ " " ++ r.line false))

/-- The standard output as it looks at some time. -/
def Output.shown (stamp : String) (o : Output) : String := recordLines stamp o.early ++ o.text

/-- What a command leaves. -/
structure Outcome where
  ending : Ending
  output : Output
  errors : String
  /-- Records that are written among the errors. -/
  records : List Log.Record
  /-- The file that is written, and its text. -/
  file? : Option (String × String)
  format : Log.Format
  deriving Repr

namespace Outcome

/-- The format of records before any is chosen. -/
def earlyFormat : Log.Format := ⟨Log.Level.debug.rank, true⟩

def ended (e : Ending) : Outcome := ⟨e, {}, "", [], none, earlyFormat⟩

def printed (text : String) : Outcome := { ended .success with output.text := text }

def failed (message : String) : Outcome := { ended .failure with errors := asLine message }

def afterEarly (records : List Log.Record) (o : Outcome) : Outcome :=
  { o with output.early := records ++ o.output.early }

def after (records : List Log.Record) (o : Outcome) : Outcome :=
  { o with records := records ++ o.records }

def through (w : Log.Writer) (o : Outcome) : Outcome :=
  { o with records := w.written o.records, format := w.format }

end Outcome

end Inlay.Command
