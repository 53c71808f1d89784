import GenKill.Command.Help
import GenKill.Command.Output
import GenKill.Dot.Writer
import GenKill.Graph.Reach
import GenKill.Pass.Log
import GenKill.Problem.File

/-!
# Running commands
-/

namespace GenKill

/-! ### Runs with limits -/

/-- What limits a run: the number of passes, where zero and less mean no limit,
and the number of times that it may go on before it is canceled. -/
structure Limits where
  maxPasses : Int
  checks : Option Nat := none

namespace Limits

/-- The error of a run that did not settle. -/
def unsettled (limits : Limits) : Error := .noFixedPoint limits.maxPasses.toNat

/-- Why the next round is not begun; that a run was canceled is noticed
first. -/
def refusal? (limits : Limits) (session : Session) : Option Error :=
  if limits.checks = some 0 then some .canceled
  else if 0 < limits.maxPasses ∧ limits.maxPasses ≤ session.pass then
    some limits.unsettled
  else none

/-- What is left of the limits after a round. -/
def next (limits : Limits) : Limits :=
  { limits with checks := limits.checks.map (· - 1) }

/-- As many rounds as a run can take: up to the limit of passes or, without one,
more than a run that settles takes. -/
def rounds (limits : Limits) (session : Session) : Nat :=
  if 0 < limits.maxPasses then limits.maxPasses.toNat - session.pass
  else session.passLimit

end Limits

namespace Session

/-- The outcome of a run with limits. -/
structure Bounded where
  trail : Trail := {}
  final : Session
  error : Option Error := none

/-- Rounds, each of which checks the limits and advances, until a pass changes
nothing.  The number of rounds ends only a run that neither settles nor meets
its limits. -/
def runRounds (rounds : Nat) (limits : Limits) (session : Session) : Bounded :=
  match limits.refusal? session, rounds with
  | some error, _ => { final := session, error := some error }
  | none, 0 => { final := session, error := some limits.unsettled }
  | none, rounds + 1 =>
      let step := session.advance
      if step.fault.isSome then
        { trail := { steps := [step] }, final := step.session
          error := some limits.unsettled }
      else if step.session.changed = false then
        { trail := { steps := [step], settled := true }, final := step.session }
      else
        let rest := runRounds rounds limits.next step.session
        { rest with trail.steps := step :: rest.trail.steps }

def runWithin (session : Session) (limits : Limits) : Bounded :=
  runRounds (limits.rounds session) limits session

end Session

namespace Command

/-- What a command works with besides its arguments. -/
structure Context where
  environment : Settings.Environment := []
  time : Moment
  /-- The number of times that a run may go on before it is canceled. -/
  checks : Option Nat := none

/-- A command whose settings are known. -/
structure Job where
  settings : Settings
  logger : Logger
  limits : Limits

namespace Job

/-! ### Preparing a problem -/

/-- The warning about a node that control cannot reach. -/
def unreachableEntry (problem : Problem) (index : Nat) : Log.Entry where
  level := .warn
  fields :=
    [("problem", .text problem.name),
     ("node", .text (problem.graph.site index).name)]
  message := "node unreachable from entry"

/-- The problem in the direction that the settings ask for. -/
def directed (job : Job) (problem : Problem) : Except Error Problem :=
  if job.settings.direction = [] then .ok problem
  else match Direction.ofText job.settings.direction with
    | .error error => .error error
    | .ok direction => .ok { problem with direction }

/-- Goes on with a problem, warning about the nodes that cannot be reached. -/
def prepare (job : Job) (loaded : Except Error Problem)
    (next : Problem → Report) : Report :=
  match loaded with
  | .error error => .failed error
  | .ok problem =>
      match job.directed problem with
      | .error error => .failed error
      | .ok problem =>
          let warnings :=
            problem.graph.unreachableFromEntry.flatMap fun index =>
              job.logger.log (unreachableEntry problem index)
          (next problem).after warnings

/-- Logs the events of a step. -/
def logStep (job : Job) (problem : Problem) (step : Session.Step) :
    List Output :=
  step.events.flatMap fun event =>
    let entry := event.entry
    job.logger.log
      { entry with fields := ("problem", .text problem.name) :: entry.fields }

/-- Runs a session of a problem and logs what it does. -/
def runProblem (job : Job) (problem : Problem) (next : Session → Report) :
    Report :=
  match problem.session problem.direction with
  | .error error => .failed error
  | .ok session =>
      let run := session.runWithin job.limits
      let logged := run.trail.steps.flatMap (job.logStep problem)
      match run.error with
      | some error =>
          .after logged
            (.failed (.within ("unable to solve " ++ problem.name.quote) error))
      | none => (next run.final).after logged

/-! ### The commands -/

def line (text : Text) : Text := text ++ "\n"

/-- The entry about a solution. -/
def solvedEntry (problem : Problem) (passes : Nat) : Log.Entry where
  level := .info
  fields :=
    [("problem", .text problem.name),
     ("direction", .text problem.direction.text), ("passes", .number passes)]
  message := "reached fixed point"

/-- Solves a problem and prints its solution. -/
def solve (job : Job) (problem : Problem) : Report :=
  job.runProblem problem fun session =>
    let solution :=
      if job.settings.json then session.snapshot.json
      else session.system.report problem.graph
    (Report.printed (line solution)).after
      (job.logger.log (solvedEntry problem session.pass))

/-- The state of a session as it is printed between passes. -/
def shownState (job : Job) (session : Session) : Text :=
  if job.settings.json then line session.snapshot.json
  else
    "=== [ pass " ++ Text.ofNat session.pass ++ " (changed=" ++
      Text.ofBool session.changed ++ ") ] ===\n" ++
      line (session.system.report session.graph)

/-- Prints the state of a problem before the first pass and after each. -/
def step (job : Job) (problem : Problem) : Report :=
  match problem.session problem.direction with
  | .error error => .failed error
  | .ok session =>
      match session.reset problem.system with
      | .error error => .failed error
      | .ok session =>
          let run := session.runWithin job.limits
          let states := run.trail.steps.flatMap fun step =>
            job.logStep problem step ++ [.printed (job.shownState step.session)]
          { outputs := .printed (job.shownState session) :: states
            error := run.error }

/-- Prints the graph of a problem, which carries the problem and, if asked for,
its solution. -/
def dot (job : Job) (solved : Bool) (problem : Problem) : Report :=
  if solved then
    job.runProblem problem fun session =>
      .printed (line (problem.annotatedGraph (some session.system)).toDot)
  else .printed (line (problem.annotatedGraph none).toDot)

end Job

/-- The help that the arguments of the help command ask for. -/
def helpOn (topic : List Text) : Report :=
  match find topic with
  | .error _ => { outputs := [.told (unknownTopic topic)] }
  | .ok (none, _) => .printed programHelp
  | .ok (some command, _) => .printed command.helpText

/-- The work of a command, once its settings are known and its log is open. -/
def perform {m : Type → Type} [Monad m] (files : Files m) (command : Command)
    (job : Job) (solved : Bool) (arguments : List Text) : m Report := do
  let argument := arguments.headD []
  match command with
  | help => return helpOn arguments
  | builtIn => return job.prepare (Problem.lookup 0 0 argument) job.solve
  | solve =>
      return job.prepare (Problem.ofFile 0 0 argument (← files.read argument))
        job.solve
  | step =>
      return job.prepare (Problem.ofFile 0 0 argument (← files.read argument))
        job.step
  | dot =>
      return job.prepare (Problem.ofFile 0 0 argument (← files.read argument))
        (job.dot solved)

/-- Reads the settings, opens the log and runs a command. -/
def start {m : Type → Type} [Monad m] (files : Files m) (context : Context)
    (command : Command) (given : List (Text × Settings.Value))
    (arguments : List Text) : m Report := do
  match ← Settings.load files.read given context.environment with
  | .error error => return .failed error
  | .ok settings =>
      let targets := Log.targets settings.logFile
      match ← Log.openTargets files targets with
      | .error error => return .failed error
      | .ok () =>
          let sources : Settings.Sources :=
            { given, environment := context.environment }
          let job : Job := {
            settings
            logger := {
              threshold := Log.Level.threshold settings.logLevel
              targets, time := context.time }
            limits :=
              { maxPasses := settings.maxPasses, checks := context.checks } }
          command.perform files job (sources.value solveFlag).toBool arguments

/-- Runs a command with the arguments after its name.  A request for help comes
before everything but mistakes in the flags. -/
def run {m : Type → Type} [Monad m] (files : Files m) (context : Context)
    (command : Command) (arguments : List Text) : m Report := do
  match Arguments.ofList command.flags arguments with
  | .error error => return .failed error
  | .ok parsed =>
      if parsed.isOn (helpFlag command.name) then
        return .printed command.helpText
      else match command.validate parsed.others with
        | .error error => return .failed error
        | .ok arguments => command.start files context parsed.given arguments

/-- Runs the program without a command. -/
def runProgram (arguments : List Text) : Report :=
  match Arguments.ofList (helpFlag "dataflow" :: Settings.flags) arguments with
  | .error error => .failed error
  | .ok _ => .printed programHelp

/-- Runs the program on its arguments, and writes what it logs to files. -/
def execute {m : Type → Type} [Monad m] (files : Files m) (context : Context)
    (arguments : List Text) : m Report := do
  let report ← match find arguments with
    | .error error => pure (.failed error)
    | .ok (none, arguments) => pure (runProgram arguments)
    | .ok (some command, arguments) => command.run files context arguments
  Report.writeFiles files report.outputs
  return report

end Command

end GenKill
