import Inlay.Environment
import Inlay.Log
import Inlay.Text.Blank
import Inlay.Text.Case

/-!
# Where log records go

Records that reach a threshold are written, as JSON objects or as lines. Both
are chosen when the program starts: by what the caller says, else by environment
variables, else by default. Setting the writer up again replaces what was there.
-/

namespace Inlay.Log

/-- What is written and how. -/
structure Format where
  threshold : Int
  json : Bool
  deriving DecidableEq, Repr

namespace Format

/-- The variable that names the threshold. -/
def levelVariable : String := "CAMINO_LOG_LEVEL"

def formatVariable : String := "CAMINO_LOG_FORMAT"

/-- The threshold that nothing else chooses. -/
def usualThreshold : Int := Level.warning.rank

def namedThresholds : List (String × Int) :=
  [("CRITICAL", 50), ("FATAL", 50), ("ERROR", 40), ("WARN", 30), ("WARNING", 30), ("INFO", 20),
   ("DEBUG", 10), ("NOTSET", 0)]

/-- The threshold that the environment names; a name that is unknown says
nothing. -/
def thresholdOf (env : Environment) : Int :=
  (namedThresholds.lookup (Text.upper (env.value levelVariable))).getD usualThreshold

def wantsJson (env : Environment) : Bool :=
  Text.lower (String.ofList (Text.trim (env.value formatVariable).toList)) == "json"

def choose (env : Environment) (forceJson : Bool) (threshold? : Option Int) : Format :=
  ⟨threshold?.getD (thresholdOf env), forceJson || wantsJson env⟩

end Format

/-- A writer: its format, what is bound to the program, and the environment. -/
structure Writer where
  format : Format
  context : Fields
  environment : Environment
  deriving Repr

namespace Writer

def initial : Writer := ⟨⟨Level.debug.rank, true⟩, [], []⟩

/-- Sets environment variables and chooses the format anew. -/
def configure (w : Writer) (added : Environment) (forceJson : Bool)
    (threshold? : Option Int) : Writer :=
  let env := added.foldl (fun env (name, value) => env.set name value) w.environment
  { w with format := .choose env forceJson threshold?, environment := env }

def bind (w : Writer) (fields : Fields) : Writer :=
  { w with context := overlay w.context fields }

/-- Drops what is bound to the program. -/
def clear (w : Writer) : Writer := { w with context := [] }

def accepts (w : Writer) (r : Record) : Bool := w.format.threshold ≤ r.level.rank

/-- The records of a list that are written, with what is bound to the program. -/
def written (w : Writer) (rs : List Record) : List Record :=
  (rs.filter w.accepts).map (.within w.context)

end Writer

end Inlay.Log
