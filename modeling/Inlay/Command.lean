import Inlay.Command.Outcome
import Inlay.Command.Switch
import Inlay.Evaluation
import Inlay.Expr.Reader
import Inlay.Library
import Inlay.Property.File
import Inlay.Report
import Inlay.Settings.Source

/-!
# The command line

    camino [-c FILE] [-v]... [-q] [--version] COMMAND ...

    render TEMPLATE [-p NAME=VALUE]... [-f FILE]... [-o FILE]
    check TEMPLATE
    functions

First the words before the command are read, then the settings are loaded, and
only then the words after the command. A template `-` is the standard input, and
an output `-` is the standard output. A file for the output is opened when there
is something to write, and not before.

A command is a function of what it can see: files, variables, standard input, the clock
and the stacks that templates are read and evaluated on.
-/

namespace Inlay.Command

/-- What a command can see. -/
structure View where
  surroundings : Settings.Surroundings
  input : ByteArray
  /-- The time in milliseconds of the epoch. -/
  clock : Int
  reader : Reader.Stack
  stack : Evaluation.Stack

def programName : String := "camino"

def version : String := "0.3.0"

def loggerName : String := "camino.main"

def parserLoggerName : String := "camino.render.parser"

def templateLoggerName : String := "camino.render.template"

/-- The name of the standard input among templates. -/
def inputName : String := "<stdin>"

/-- The word that stands for the standard input or output. -/
def standardWord : String := "-"

/-! ## Switches -/

/-- Every command can be asked how it is used. -/
def helpSwitch : Switch := ⟨"help", none, false⟩

def programSwitches : List Switch :=
  [helpSwitch, ⟨"version", none, false⟩, ⟨"config", some 'c', true⟩,
   ⟨"verbose", some 'v', false⟩, ⟨"quiet", some 'q', false⟩]

/-- The switches of `render`. -/
def renderSwitches : List Switch :=
  [helpSwitch, ⟨"property", some 'p', true⟩, ⟨"properties-file", some 'f', true⟩,
   ⟨"output", some 'o', true⟩]

/-- The level that records have to reach: quiet counts more than verbose, and
either more than the settings. -/
def thresholdOf (settings : Settings) (words : Words) : Log.Level :=
  if words.has "quiet" then .error
  else
    match words.count "verbose" with
    | 0 => settings.verbosity.level
    | 1 => .info
    | _ => .debug

/-! ## Templates -/

/-- A template as it is named on the command line, and its bytes. -/
structure Source where
  name : String
  bytes : ByteArray

/-- The template that a word names, if it can be opened. -/
def source? (view : View) (word : String) : Option Source :=
  if word = standardWord then some ⟨inputName, view.input⟩
  else
    match (view.surroundings.files word).open? with
    | .ok bytes => some ⟨word, bytes⟩
    | .error _ => none

def withText (s : Source) (act : String → Outcome) : Outcome :=
  match fileText s.bytes with
  | .ok text => act text
  | .error f => .failed (Report.errorText ("Cannot decode " ++ s.name ++ ": " ++ f.text) [] "")

/-- The ending of a command that a fault of the reading of templates ends
without a message. -/
def brokenBy : ParseFailure → Ending
  | .numeralTooLong digits => .broken .badValue (Numeral.tooLongText digits)
  | _ => .failure

def parsedRecord (text : String) (t : Template) : Log.Record :=
  ⟨.debug, parserLoggerName, "template_parsed",
    [("nodes", .integer t.children.length), ("length", .integer text.length)]⟩

/-! ## Commands -/

/-- Reads a template and says whether it is one. -/
def check (view : View) (s : Source) : Outcome :=
  withText s fun text =>
    match Template.parse view.reader text with
    | .ok t =>
      (Outcome.printed (asLine (Report.successText
        (s.name ++ " is valid (" ++ toString t.children.length ++ " nodes)")))).after
          [parsedRecord text t]
    | .error f =>
      match f.diagnostic? with
      | some d => .failed (Report.diagnosticText d text)
      | none => .ended (brokenBy f)

/-- A rendering that failed: the failure is noted and shown. -/
def renderFailed (s : Source) (error shown : String) : Outcome :=
  (Outcome.failed shown).after
    [⟨.error, loggerName, "render_failed", [("template", .text s.name), ("error", .text error)]⟩]

def deliver (files : Files) (destination text : String) : Outcome :=
  if destination = standardWord then .printed text
  else
    match files.writeFault? destination with
    | none => { Outcome.ended .success with file? := some (destination, text) }
    | some reason =>
      .failed ("Error: Could not open file " ++ Text.quoted destination ++ ": " ++ reason)

/-- Renders a template that has been read. -/
def renderText (view : View) (settings : Settings) (words : Words) (s : Source) (text : String)
    (properties : List Property) : Outcome :=
  match Template.parse view.reader text with
  | .error f =>
    match f.diagnostic? with
    | some d => renderFailed s d.message (Report.diagnosticText d text)
    | none => .ended (brokenBy f)
  | .ok t =>
    let context : Context := ⟨Library.registry, Host.none, view.clock, settings.maxCallDepth⟩
    let rendered := (t.renderOn view.stack context (.ofProperties properties) ⟨0, []⟩).1
    let outcome := match rendered with
      | .error e =>
        renderFailed s e.diagnostic.message (Report.diagnosticText e.diagnostic text)
      | .ok result =>
        let destination := ((words.values "output").getLast?).getD standardWord
        (deliver view.surroundings.files destination result).after
          [⟨.debug, templateLoggerName, "template_rendered",
            [("template", .text s.name), ("length", .integer result.length)]⟩]
    outcome.after [parsedRecord text t]

/-- Renders a template with the properties that files and words give. -/
def render (view : View) (settings : Settings) (words : Words) (s : Source) : Outcome :=
  withText s fun text =>
    let loading := Property.collect view.surroundings.files (words.values "properties-file")
      (words.values "property")
    let (collected, records) := loading.outcome
    let outcome := match collected with
      | .ok properties => renderText view settings words s text properties
      | .error f =>
        match f.class? with
        | some c => .ended (.broken c f.text)
        | none => renderFailed s f.text (Report.errorText f.text [] "")
    outcome.after records

/-- A text filled up with spaces to a width. -/
def column (width : Nat) (s : String) : String := Log.Record.padRight width s

/-- A line for each function: its name, the number of its arguments and what it
does. -/
def functionsText (r : Registry) : String :=
  let width := (r.names.map String.length).foldl max 0
  let sorted := r.functions.mergeSort fun a b => decide (a.name ≤ b.name)
  String.join (sorted.map fun f =>
    asLine (column width f.name ++ "  (" ++ f.arityText ++ ")  " ++ f.description))

/-! ## Running -/

/-- How the program is used, in short. -/
def usageText : String :=
  asLine ("Usage: " ++ programName ++ " [OPTIONS] COMMAND [ARGS]...")

/-- Whether a file of properties is there. -/
def isThere (files : Files) (path : String) : Bool :=
  match files path with
  | .regular _ => true
  | _ => false

/-- Goes on with the one template that words name. -/
def withSource (view : View) (words : Words) (act : Source → Outcome) : Outcome :=
  match words.ordinary with
  | [word] =>
    match source? view word with
    | some s => act s
    | none => .ended .misuse
  | _ => .ended .misuse

def names : List String := ["render", "check", "functions"]

def runCommand (view : View) (settings : Settings) (writer : Log.Writer) (name : String)
    (args : List String) : Outcome :=
  let switches := if name = "render" then renderSwitches else [helpSwitch]
  match readWords switches true args with
  | .error _ => .ended .misuse
  | .ok words =>
    if words.has helpSwitch.name then .printed usageText
    else
      match name with
      | "render" =>
        if !(words.values "properties-file").all (isThere view.surroundings.files) then
          .ended .misuse
        else
          withSource view words fun s =>
            (render view settings words s).through (writer.bind [("template", .text s.name)])
      | "check" => withSource view words fun s => (check view s).through writer
      | _ =>
        if words.ordinary.isEmpty then .printed (functionsText Library.registry)
        else .ended .misuse

def runWithSettings (view : View) (words : Words) (name : String) (args : List String) :
    Outcome :=
  let loading := Settings.load view.surroundings ((words.values "config").getLast?)
  let (loaded, early) := loading.outcome
  let outcome : Outcome := match loaded with
    | .error (.settings f) => .failed (Report.settingsErrorText f.text f.field? f.found)
    | .error f => .ended (.broken (f.class?.getD .badValue) f.text)
    | .ok settings =>
      let threshold := (thresholdOf settings words).rank
      let format := Log.Format.choose view.surroundings.environment false (some threshold)
      runCommand view settings ⟨format, [], view.surroundings.environment⟩ name args
  outcome.afterEarly early

/-- Runs the program. -/
def run (view : View) (args : List String) : Outcome :=
  match readWords programSwitches false args with
  | .error _ => .ended .misuse
  | .ok words =>
    match (words.given.map (·.name)).find? fun n => n == "version" || n == helpSwitch.name with
    | some "version" => .printed (asLine (programName ++ ", version " ++ version))
    | some _ => .printed usageText
    | none =>
      match words.ordinary with
      | [] => .ended .misuse
      | name :: rest =>
        if names.contains name then runWithSettings view words name rest else .ended .misuse

end Inlay.Command
