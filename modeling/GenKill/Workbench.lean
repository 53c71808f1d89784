import GenKill.Problem

/-!
# Workbenches

Graphs, systems, problems and sessions refer to each other: a problem is about a
graph that may still grow, and a session works on a system that others may
change.  A workbench holds the current state of all of them under numbers;
reading one of them gives a value in which everything it refers to is current.
-/

namespace GenKill

namespace Workbench

/-- Where a session takes its system from when it starts. -/
inductive Setup where
  /-- A fresh system of a problem, as the problem is then. -/
  | problem (number : Nat)
  /-- A system that is shared, in whatever state it is. -/
  | shared (system : Nat)

structure SessionState where
  graph : Nat
  direction : Direction
  setup : Setup
  system : Nat
  pass : Nat := 0
  changed : Bool := true

end Workbench

structure Workbench where
  graphs : Table Nat Graph := .empty
  systems : Table Nat System := .empty
  problems : Table Nat Problem := .empty
  sessions : Table Nat Workbench.SessionState := .empty
  /-- A number that nothing has yet. -/
  next : Nat := 0

namespace Workbench

/-- A number that nothing has yet, and the workbench on which it is taken. -/
def take (bench : Workbench) : Nat × Workbench :=
  (bench.next, { bench with next := bench.next + 1 })

/-! ### Graphs -/

/-- The current state of a graph, which is identified by its own number. -/
def graph (bench : Workbench) (number : Nat) : Graph :=
  (bench.graphs.get? number).getD (Graph.empty number)

def setGraph (bench : Workbench) (graph : Graph) : Workbench :=
  { bench with graphs := bench.graphs.insert graph.ident graph }

/-! ### Systems -/

def system? (bench : Workbench) (number : Nat) : Option System :=
  bench.systems.get? number

def setSystem (bench : Workbench) (number : Nat) (system : System) :
    Workbench :=
  { bench with systems := bench.systems.insert number system }

def addSystem (bench : Workbench) (system : System) : Nat × Workbench :=
  let (number, bench) := bench.take
  (number, bench.setSystem number system)

/-! ### Problems -/

/-- A problem, with its graph as it is now. -/
def problem? (bench : Workbench) (number : Nat) : Option Problem :=
  (bench.problems.get? number).map fun problem =>
    { problem with
      graph := (bench.graphs.get? problem.graph.ident).getD problem.graph }

/-- Sets a problem, and with it its graph. -/
def setProblem (bench : Workbench) (number : Nat) (problem : Problem) :
    Workbench :=
  { bench.setGraph problem.graph with
    problems := bench.problems.insert number problem }

def addProblem (bench : Workbench) (problem : Problem) : Nat × Workbench :=
  let (number, bench) := bench.take
  (number, bench.setProblem number problem)

/-! ### Sessions -/

/-- The system that a session starts with. -/
def setUp (bench : Workbench) : Setup → Except Error (Nat × Workbench)
  | .shared system => .ok (system, bench)
  | .problem number =>
      match bench.problem? number with
      | none => .ok bench.take
      | some problem =>
          match problem.system with
          | .error error =>
              .error (.within "unable to set up flow value system" error)
          | .ok system => .ok (bench.addSystem system)

/-- Starts a session again; on a failure nothing changes. -/
def resetSession (bench : Workbench) (number : Nat) : Except Error Workbench :=
  match bench.sessions.get? number with
  | none => .ok bench
  | some state =>
      match bench.setUp state.setup with
      | .error error => .error error
      | .ok (system, bench) =>
          let state := { state with system, pass := 0, changed := true }
          .ok { bench with sessions := bench.sessions.insert number state }

/-- A session, with its graph and its system as they are now. -/
def session? (bench : Workbench) (number : Nat) : Option Session :=
  (bench.sessions.get? number).bind fun state =>
    (bench.system? state.system).map fun system =>
      { graph := bench.graph state.graph
        direction := state.direction
        system
        pass := state.pass
        changed := state.changed }

/-- Records how far a session has come, and what it has done to its system. -/
def setSession (bench : Workbench) (number : Nat) (session : Session) :
    Workbench :=
  match bench.sessions.get? number with
  | none => bench
  | some state =>
      let state :=
        { state with pass := session.pass, changed := session.changed }
      { bench.setSystem state.system session.system with
        sessions := bench.sessions.insert number state }

end Workbench

end GenKill
