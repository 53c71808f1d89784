import GenKill.Problem.Elements
import GenKill.Session
import GenKill.Text.Lowercase

/-!
# Problems

A problem is a graph with everything that an analysis of it needs: the universe,
the initial value of the out sets, the direction, and the gen and kill lists of
the nodes.
-/

namespace GenKill

/-- The value of out sets before the first pass. -/
inductive Initial where
  | empty
  | full
  deriving DecidableEq

namespace Initial

/-- Codes without a meaning act as empty. -/
def ofInt : Int → Initial
  | 1 => full
  | _ => empty

def toInt : Initial → Int
  | empty => 0
  | full => 1

def text : Initial → Text
  | empty => "empty"
  | full => "universe"

/-- Reads an initial value, in any case; nothing means empty. -/
def ofText (name : Text) : Except Error Initial :=
  let lower := name.trim.lower
  if lower = [] ∨ lower = "empty" then .ok empty
  else if lower = "universe" ∨ lower = "full" then .ok full
  else .error (.invalidInitial name)

def value (initial : Initial) (facts : Universe) : FactSet :=
  match initial with
  | empty => facts.empty
  | full => facts.full

end Initial

structure Problem where
  name : Text
  graph : Graph
  facts : Universe
  initial : Initial := .empty
  direction : Direction := .forward
  gen : Table Site (List Text) := .empty
  kill : Table Site (List Text) := .empty

namespace Problem

def defineGen (problem : Problem) (site : Site) (elements : List Text) :
    Problem :=
  { problem with gen := problem.gen.insert site elements }

def defineKill (problem : Problem) (site : Site) (elements : List Text) :
    Problem :=
  { problem with kill := problem.kill.insert site elements }

/-- Refuses elements that could not be listed in an attribute. -/
def checkElements : List Text → Except Error Unit
  | [] => .ok ()
  | element :: rest =>
      if Elements.isListable element then checkElements rest
      else .error (.invalidElement element)

/-- Gives a node its gen and kill sets, where the problem defines them. -/
def defineAt (problem : Problem) (system : System) (site : Site) :
    Except Error System :=
  let withGen := match problem.gen.get? site with
    | some elements => system.defineGen site elements
    | none => .ok system
  match withGen with
  | .error error => .error error
  | .ok system =>
      match problem.kill.get? site with
      | some elements => system.defineKill site elements
      | none => .ok system

def defineAll (problem : Problem) : System → List Site → Except Error System
  | system, [] => .ok system
  | system, site :: rest =>
      match problem.defineAt system site with
      | .error error => .error error
      | .ok system => problem.defineAll system rest

/-- A fresh system of the problem, with no out set computed. -/
def system (problem : Problem) : Except Error System :=
  match checkElements problem.facts.elements with
  | .error error => .error error
  | .ok () =>
      match problem.facts.system (problem.initial.value problem.facts) with
      | .error error => .error error
      | .ok system => problem.defineAll system problem.graph.sites

/-- A session of the problem, in a direction that may differ from its own. -/
def session (problem : Problem) (direction : Direction) :
    Except Error Session :=
  Session.start problem.graph direction problem.system

/-- The problem itself, if its system can be set up. -/
def checked (problem : Problem) : Except Error Problem :=
  match problem.system with
  | .error error => .error error
  | .ok _ => .ok problem

end Problem

end GenKill
