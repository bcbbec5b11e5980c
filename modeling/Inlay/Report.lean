import Inlay.Expr.Fault
import Inlay.Data.Display
import Inlay.RenderError
import Inlay.Scope
import Inlay.Text.Lines

/-!
# Messages to the user

Errors are shown with their details, one a line, and with a suggestion. An
error in a template shows the line of the source and a caret under the column.
-/

namespace Inlay

/-- A fault as it is shown: what kind of fault it is, why it came up, and where
in the template. -/
structure Diagnostic where
  heading : String
  reason : String
  location : Option Location
  deriving DecidableEq, Repr

namespace Diagnostic

/-- The reason, and the place if there is one. -/
def message (d : Diagnostic) : String :=
  match d.location with
  | some l => d.reason ++ " at " ++ l.text
  | none => d.reason

end Diagnostic

namespace RenderCause

def kindName : RenderCause → String
  | unresolved _ => "UnresolvedReference"
  | typeMismatch _ => "TypeMismatch"
  | memberNotFound _ => "MemberNotFound"
  | indexOutOfRange _ _ => "IndexOutOfRange"
  | arityMismatch _ _ => "ArityMismatch"
  | callFailed _ _ => "FunctionCallException"
  | callDepthExceeded _ => "CallDepthExceeded"

end RenderCause

/-- A failure of rendering as it is shown. -/
def RenderError.diagnostic (e : RenderError) : Diagnostic :=
  ⟨e.cause.kindName, e.cause.text, some e.location⟩

namespace Report

def formHeading : String := "Syntax error"

/-- The heading of faults in a template of no more special kind. -/
def templateHeading : String := "Template error"

/-- An error with details and a suggestion; an empty suggestion is left out. -/
def errorText (message : String) (details : List String) (suggestion : String) : String :=
  let hint := if suggestion.isEmpty then [] else ["Suggestion: " ++ suggestion]
  "\n".intercalate (("Error: " ++ message) :: details.map ("  " ++ ·) ++ hint)

def successText (message : String) : String := "Success: " ++ message

/-- The line of a source with the given number, counted from one. -/
def sourceLine? (source : String) (line : Nat) : Option String :=
  if line = 0 then none else (Text.lines source)[line - 1]?

/-- The line of the source at a place, and a caret under its column. -/
def excerpt (source : String) (l : Location) : List String :=
  match sourceLine? source l.line with
  | some line => [line, String.ofList (List.replicate (l.column - 1) ' ' ++ ['^'])]
  | none => []

/-- A fault with its place and, where there is one, the line of the source. -/
def diagnosticText (d : Diagnostic) (source : String) : String :=
  let details := match d.location with
    | some l => ("at " ++ l.text) :: excerpt source l
    | none => []
  errorText (d.heading ++ ": " ++ d.reason) details ""

/-- A fault in the settings, with the setting and its value where they are
known. -/
def settingsErrorText (message : String) (field : Option String) (value : Data) : String :=
  let named := match field with
    | some f => if f.isEmpty then [] else ["Field: " ++ f]
    | none => []
  let shown := match value with
    | .null => []
    | d => ["Value: " ++ d.plainText]
  errorText message (named ++ shown)
    "Check camino.yaml and CAMINO_* environment variables."

end Report

/-- A scope in short: the names that its innermost frame binds, sorted, and
how many frames there are. -/
def Scope.description (scope : Scope) : String :=
  let own := (scope.frames.headD []).names.mergeSort fun a b => decide (a ≤ b)
  "Environment(names=[" ++ joinWith ", " (own.map Text.quoted) ++ "], depth=" ++
    toString scope.depth ++ ")"

/-- A template in short: its name, if it has one, and the number of its
children. -/
def Template.description (t : Template) (name : Option String) : String :=
  "Template(name=" ++ (match name with
    | some n => Text.quoted n
    | none => "None") ++ ", nodes=" ++ toString t.children.length ++ ")"

/-- A failure of reading a template as it is shown; that a numeral is too long
is no fault of the template's form and is not shown this way. -/
def ParseFailure.diagnostic? : ParseFailure → Option Diagnostic
  | .rejected cause l => some ⟨Report.formHeading, cause.text, some l⟩
  | .tooDeep l => some ⟨Report.formHeading, "Expression nesting too deep", some l⟩
  | .numeralTooLong _ => none

end Inlay
