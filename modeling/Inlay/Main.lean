import Inlay.Command.Paths
import Inlay.Time.Pattern
import Std.Time.DateTime.Timestamp

/-!
# The program

Looks at what a command line can lead to, runs the command on it and carries out
what the command leaves: records and text on the standard output, a file, and on the
standard error log records and messages.
-/

namespace Inlay

/-- What is found at a path from the working directory. -/
def FileState.observe (path : String) : IO FileState := do
  let place := (← IO.currentDir) / path
  match ← place.metadata.toBaseIO with
  | .error (.inappropriateType ..) => return .beneathFile
  | .error _ => return .absent
  | .ok found =>
    match found.type with
    | .dir => return .directory
    | _ =>
      match ← (IO.FS.readBinFile place).toBaseIO with
      | .ok bytes => return .regular bytes
      | .error _ => return .absent

def Files.observe (paths : List String) : IO Files := do
  let mut found : List (String × FileState) := []
  for path in paths do
    found := (path, ← FileState.observe path) :: found
  let seen := found
  return fun path => (seen.lookup path).getD .absent

/-- The variables that mean something to the program, in capitals and in small
letters. -/
def Environment.observe : IO Environment := do
  let names := [Settings.variablePrefix ++ Settings.renderName,
    Settings.variablePrefix ++ Settings.renderName ++ Settings.memberMark ++ Settings.depthName,
    Settings.variablePrefix ++ Settings.verbosityName,
    Text.lower Log.Format.levelVariable, Text.lower Log.Format.formatVariable]
  let mut found : Environment := []
  for name in names ++ names.map Text.upper do
    if let some value ← IO.getEnv name then
      found := (name, value) :: found
  return found

/-- Reads a stream to its end; the fuel is the number of reads. -/
def readAll (stream : IO.FS.Stream) : Nat → ByteArray → IO ByteArray
  | 0, done => return done
  | fuel + 1, done => do
    let piece ← stream.read 65536
    if piece.isEmpty then return done else readAll stream fuel (done ++ piece)

/-- The time, in milliseconds of the epoch. -/
def observeClock : IO Int := do
  return (← Std.Time.Timestamp.now).toMillisecondsSinceUnixEpoch.val

/-- A time in milliseconds of the epoch, as records show it. -/
def stampText (clock : Int) : String :=
  let seconds := clock / 1000
  let moment : Time.Moment :=
    ⟨seconds / 86400, (seconds % 86400).toNat, (clock % 1000).toNat * 1000, ⟨0, "UTC"⟩⟩
  Time.Pattern.fill "%Y-%m-%dT%H:%M:%S.%fZ" moment

def recordText (format : Log.Format) (stamp : String) (r : Log.Record) : String :=
  if format.json then
    match r.toJson with
    | .object members => (Json.object (members ++ [("timestamp", .string stamp)])).render
    | document => document.render
  else stamp ++ " " ++ r.line true

/-- Carries out what a command leaves, and gives the exit code. -/
def Command.Outcome.carryOut (o : Outcome) (stamp : String) : IO UInt32 := do
  IO.print (o.output.shown stamp)
  for r in o.records do
    IO.eprintln (recordText o.format stamp r)
  IO.eprint o.errors
  if let some (path, text) := o.file? then
    IO.FS.writeFile path text
  match o.ending with
  | .misuse => IO.eprint Command.usageText
  | .broken _ text => IO.eprintln text
  | _ => pure ()
  return o.ending.code.toUInt32

end Inlay

/-- Runs the program on a command line. -/
def main (args : List String) : IO UInt32 := do
  let directory := (← IO.currentDir).toString
  let home := (← IO.getEnv "HOME").getD directory
  let files ← Inlay.Files.observe (Inlay.Command.paths directory home args)
  let environment ← Inlay.Environment.observe
  let input ←
    if args.contains Inlay.Command.standardWord then
      Inlay.readAll (← IO.getStdin) 0x100000000 ByteArray.empty
    else pure ByteArray.empty
  let clock ← Inlay.observeClock
  let surroundings : Inlay.Settings.Surroundings := ⟨files, environment, directory, home⟩
  let outcome := Inlay.Command.run ⟨surroundings, input, clock, .usual, .usual⟩ args
  outcome.carryOut (Inlay.stampText clock)
