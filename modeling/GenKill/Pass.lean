import GenKill.Direction
import GenKill.System

/-!
# Passes over a graph

The flow equation of a node is `out = (meet \ kill) ∪ gen`, where the meet is
the intersection of the out sets that flow into the node.  A pass applies it to
the nodes in order, in place: nodes visited later see the new out sets.  A node
into which nothing flows has an empty meet.
-/

namespace GenKill

/-- What a visit of a node has to tell. -/
inductive Event where
  | met (node : Text) (neighbors : Nat) (meet : FactSet)
  | updated (node : Text) (old new : FactSet)

namespace System

def meet (system : System) : List Site → Except Fault FactSet
  | [] => .ok system.facts.empty
  | first :: rest =>
      rest.foldlM (fun meet site => meet.inter (system.out.get site))
        (system.out.get first)

def transfer (system : System) (site : Site) (meet : FactSet) :
    Except Fault FactSet :=
  match meet.diff (system.kill.get site) with
  | .error fault => .error fault
  | .ok kept => kept.union (system.gen.get site)

/-- The outcome of visiting one node: the new system if its out set changed. -/
structure Visit where
  events : List Event := []
  result : Except Fault (Option System)

/-- Records a new out set that differs from the old one. -/
def update (system : System) (site : Site) (events : List Event)
    (old new : FactSet) : Visit :=
  match new.sameElements old with
  | .error fault => { events, result := .error fault }
  | .ok true => { events, result := .ok none }
  | .ok false =>
      { events := events ++ [.updated site.name old new]
        result := match system.setOut site new with
          | .error error => .error (.brokenUpdate error)
          | .ok next => .ok (some next) }

/-- Applies the flow equation at one node. -/
def visit (graph : Graph) (direction : Direction) (system : System)
    (index : Nat) : Visit :=
  let site := graph.site index
  let neighbors := direction.neighbors graph index
  match system.meet (neighbors.map graph.site) with
  | .error fault => { result := .error fault }
  | .ok meet =>
      let events := [.met site.name neighbors.length meet]
      match system.transfer site meet with
      | .error fault => { events, result := .error fault }
      | .ok new => system.update site events (system.out.get site) new

/-- The outcome of a pass.  After a fault the system holds the updates made
before it. -/
structure Pass where
  system : System
  changed : Bool := false
  events : List Event := []
  fault : Option Fault := none

/-- A pass over some of the nodes. -/
def passOver (graph : Graph) (direction : Direction) : List Nat → System → Pass
  | [], system => { system }
  | index :: rest, system =>
      match system.visit graph direction index with
      | { events, result := .error fault } =>
          { system, events, fault := some fault }
      | { events, result := .ok none } =>
          let pass := passOver graph direction rest system
          { pass with events := events ++ pass.events }
      | { events, result := .ok (some next) } =>
          let pass := passOver graph direction rest next
          { pass with changed := true, events := events ++ pass.events }

/-- One pass over all nodes of a graph. -/
def pass (system : System) (graph : Graph) (direction : Direction) : Pass :=
  passOver graph direction (List.range graph.size) system

/-- The outcome of repeated passes. -/
structure Run where
  system : System
  passes : Nat := 0
  /-- The last pass changed nothing. -/
  settled : Bool := false
  events : List Event := []
  fault : Option Fault := none

/-- Passes until one changes nothing, at most as many as the budget allows. -/
def run (graph : Graph) (direction : Direction) : Nat → System → Run
  | 0, system => { system }
  | budget + 1, system =>
      let pass := system.pass graph direction
      if pass.fault.isSome ∨ pass.changed = false then
        { system := pass.system, passes := 1, settled := pass.fault.isNone
          events := pass.events, fault := pass.fault }
      else
        let rest := run graph direction budget pass.system
        { rest with
          passes := rest.passes + 1, events := pass.events ++ rest.events }

/-- More passes than a run that settles can take: one for each state of the out
sets. -/
def passLimit (system : System) (graph : Graph) : Nat :=
  1 <<< (graph.size * system.facts.size) + 1

/-- Passes until one changes nothing. -/
def solve (system : System) (graph : Graph) (direction : Direction) : Run :=
  run graph direction (system.passLimit graph) system

end System

end GenKill
