import GenKill.Pass
import GenKill.Snapshot

/-!
# Sessions

A session steps one analysis over a graph, one pass at a time.
-/

namespace GenKill

structure Session where
  graph : Graph
  direction : Direction
  system : System
  /-- Passes since the last reset. -/
  pass : Nat := 0
  /-- Whether the last pass changed an out set; true after a reset. -/
  changed : Bool := true

namespace Session

/-- A session in its initial state, if its system can be set up. -/
def start (graph : Graph) (direction : Direction)
    (setup : Except Error System) : Except Error Session :=
  match setup with
  | .error error => .error (.within "unable to set up flow value system" error)
  | .ok system => .ok { graph, direction, system }

/-- Starts again with a fresh system. -/
def reset (session : Session) (setup : Except Error System) :
    Except Error Session :=
  start session.graph session.direction setup

def snapshot (session : Session) : Snapshot where
  pass := session.pass
  changed := session.changed
  out := Table.ofList ((session.system.out.byLabel session.graph).entries.map
    fun (label, value) => (label, value.elements))

/-- The outcome of one pass.  After a fault only the system has changed. -/
structure Step where
  session : Session
  events : List Event
  fault : Option Fault

def advance (session : Session) : Step :=
  let pass := session.system.pass session.graph session.direction
  { session :=
      if pass.fault.isSome then { session with system := pass.system }
      else
        { session with
          system := pass.system
          pass := session.pass + 1
          changed := pass.changed }
    events := pass.events
    fault := pass.fault }

/-- The steps of a run, and whether the last of them changed nothing. -/
structure Trail where
  steps : List Step := []
  settled : Bool := false

/-- Advances until a pass changes nothing, at most as often as the budget
allows. -/
def trail : Nat → Session → Trail
  | 0, _ => {}
  | budget + 1, session =>
      let step := session.advance
      if step.fault.isSome ∨ step.session.changed = false then
        { steps := [step], settled := step.fault.isNone }
      else
        let rest := trail budget step.session
        { rest with steps := step :: rest.steps }

/-- The session at the end of a trail that began with it. -/
def atEnd (session : Session) (trail : Trail) : Session :=
  (trail.steps.getLast?.map Step.session).getD session

/-- More passes than a run that settles can take. -/
def passLimit (session : Session) : Nat :=
  session.system.passLimit session.graph

end Session

end GenKill
