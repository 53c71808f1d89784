import GenKill.Command.Run
import Std.Time.DateTime.Timestamp

/-!
# The program

Access to files, to the environment and to the clock; everything else is in
`Command`.
-/

namespace GenKill.Program

def stringOf (text : Text) : String := String.ofList text.shown

/-- What a failure of the operating system means. -/
def failure (path : Text) (error : IO.Error) : Error :=
  match error with
  | .noFileOrDirectory .. => .missingFile path
  | .inappropriateType .. => .unopenedFile path "is a directory"
  | .permissionDenied .. => .unopenedFile path "permission denied"
  | error => .unopenedFile path (Text.ofString (toString error))

def attempt {α : Type} (path : Text) (action : IO α) : IO (Except Error α) := do
  try
    return .ok (← action)
  catch error =>
    return .error (failure path error)

def readFile (path : Text) : IO (Except Error Text) :=
  attempt path do
    let bytes ← IO.FS.readBinFile (stringOf path)
    return bytes.data.toList

def appendFile (path text : Text) : IO Unit := do
  let handle ← IO.FS.Handle.mk (stringOf path) .append
  handle.write ⟨text.toArray⟩

def files : Files IO where
  read := readFile
  create path := attempt path (appendFile path [])
  append := appendFile

def environment : IO Settings.Environment := do
  let names := Settings.variableNames (Command.solveFlag :: Settings.flags)
  names.filterMapM fun name => do
    return (← IO.getEnv (stringOf name)).map fun value =>
      (name, Text.ofString value)

def put (stream : IO.FS.Stream) (text : Text) : IO Unit := do
  stream.write ⟨text.toArray⟩
  stream.flush

/-- Displays what a command put out; files have been written already. -/
def display (output : Output) : IO Unit := do
  match output with
  | .printed text => put (← IO.getStdout) text
  | .told text => put (← IO.getStderr) text
  | .logged .standardOutput text => put (← IO.getStdout) text
  | .logged .standardError text => put (← IO.getStderr) text
  | .logged (.file _) _ => pure ()

def run (arguments : List String) : IO UInt32 := do
  let now ← Std.Time.Timestamp.now
  let context : Command.Context := {
    environment := ← environment
    time := Moment.ofSeconds now.toSecondsSinceUnixEpoch.val.toNat }
  let report ← Command.execute files context (arguments.map Text.ofString)
  report.outputs.forM display
  match report.error with
  | none => return 0
  | some error =>
      put (← IO.getStderr) (error.message ++ "\n")
      return 1

end GenKill.Program

def main (arguments : List String) : IO UInt32 := GenKill.Program.run arguments
