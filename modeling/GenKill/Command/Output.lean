import GenKill.Disk
import GenKill.Log
import GenKill.Text.Blank

/-!
# What a command puts out

A command prints, tells, and logs; the order matters where two of them go to one
stream.
-/

namespace GenKill

namespace Log

/-- Where log entries go. -/
inductive Target where
  | standardOutput
  | standardError
  | file (path : Text)

/-- The targets that a list names; its parts are separated by semicolons. -/
def targets (names : Text) : List Target :=
  (names.splitOn (Text.byte ';')).filterMap fun part =>
    let name := part.trim
    if name = [] then none
    else if name = "stdout" then some .standardOutput
    else if name = "stderr" then some .standardError
    else some (.file name)

/-- Opens the files among the targets, up to the first that cannot be opened. -/
def openTargets {m : Type → Type} [Monad m] (files : Files m) :
    List Target → m (Except Error Unit)
  | [] => pure (.ok ())
  | .file path :: rest => do
      match ← files.create path with
      | .error error =>
          return .error
            (.within ("failed to open log file " ++ path.quote) error)
      | .ok () => openTargets files rest
  | _ :: rest => openTargets files rest

end Log

inductive Output where
  /-- A result. -/
  | printed (text : Text)
  /-- A remark that is no result. -/
  | told (text : Text)
  | logged (target : Log.Target) (text : Text)

/-- A log with its targets; entries below the threshold are dropped. -/
structure Logger where
  threshold : Int
  targets : List Log.Target
  time : Moment

namespace Logger

/-- One line for each target; only consoles are colored. -/
def log (logger : Logger) (entry : Log.Entry) : List Output :=
  if entry.level.passes logger.threshold then
    logger.targets.map fun target =>
      .logged target (match target with
        | .file _ => entry.json (some logger.time)
        | _ => entry.console logger.time)
  else []

end Logger

/-- The outcome of a command: what it put out, and why it failed if it did. -/
structure Report where
  outputs : List Output := []
  error : Option Error := none

namespace Report

/-- Puts earlier outputs in front. -/
def after (outputs : List Output) (report : Report) : Report :=
  { report with outputs := outputs ++ report.outputs }

def failed (error : Error) : Report := { error := some error }

def printed (text : Text) : Report := { outputs := [.printed text] }

/-- Writes what was logged to files. -/
def writeFiles {m : Type → Type} [Monad m] (files : Files m) :
    List Output → m Unit
  | [] => pure ()
  | .logged (.file path) text :: rest => do
      files.append path text
      writeFiles files rest
  | _ :: rest => writeFiles files rest

/-- What goes to the two consoles, in order. -/
def consoleOutput (report : Report) : Text :=
  report.outputs.flatMap fun output => match output with
    | .logged .standardOutput text => text
    | _ => []

def consoleErrors (report : Report) : Text :=
  report.outputs.flatMap fun output => match output with
    | .logged .standardError text => text
    | _ => []

/-- What is printed or told. -/
def text (report : Report) : Text :=
  report.outputs.flatMap fun output => match output with
    | .printed text => text
    | .told text => text
    | .logged _ _ => []

/-- What goes to standard output, console lines among it. -/
def standardOutput (report : Report) : Text :=
  report.outputs.flatMap fun output => match output with
    | .printed text => text
    | .logged .standardOutput text => text
    | _ => []

def standardError (report : Report) : Text :=
  report.outputs.flatMap fun output => match output with
    | .told text => text
    | .logged .standardError text => text
    | _ => []

end Report

end GenKill
