import GenKill.Problem

/-!
# Declared problems

A problem file declares its nodes and edges one by one.  A declaration is what
such a file says, before anything is checked.
-/

namespace GenKill

structure Declaration.Node where
  label : Text
  name : Text := []
  gen : Option (List Text) := none
  kill : Option (List Text) := none

structure Declaration.Edge where
  source : Text
  target : Text

structure Declaration where
  name : Text := []
  elements : List Text
  initial : Text := []
  direction : Text := []
  nodes : List Declaration.Node := []
  edges : List Declaration.Edge := []

namespace Declaration

/-- A node without a name is called by its label. -/
def Node.shownName (node : Node) : Text :=
  if node.name = [] then node.label else node.name

/-- The name and the label with which a node is added. -/
def Node.entry (node : Node) : Text × Text := (node.shownName, node.label)

/-- The labels by which an edge names its ends. -/
def Edge.ends (edge : Edge) : Text × Text := (edge.source, edge.target)

def declaredDirection (declaration : Declaration) : Except Error Direction :=
  if declaration.direction = [] then .ok .forward
  else Direction.ofText declaration.direction

/-- The lists that are declared, by node. -/
def lists (graph : Graph) (list : Node → Option (List Text))
    (nodes : List Node) : Table Site (List Text) :=
  Table.ofList (nodes.zipIdx.filterMap fun (node, index) =>
    (list node).map fun elements => (graph.site index, elements))

/-- The graph that is declared. -/
def graph (declaration : Declaration) (ident : Nat) : Except Error Graph :=
  match (Graph.empty ident declaration.name).addNodes
    (declaration.nodes.map Node.entry) with
  | .error error => .error error
  | .ok graph => graph.addEdges (declaration.edges.map Edge.ends)

/-- The declared problem, or what is wrong with it: the universe is checked
first, then the initial value, the direction, the nodes, the edges, and the
elements last. -/
def problem (declaration : Declaration) (graphIdent factsIdent : Nat) :
    Except Error Problem :=
  match Universe.ofList factsIdent declaration.elements with
  | .error error => .error error
  | .ok facts =>
      match Initial.ofText declaration.initial with
      | .error error => .error error
      | .ok initial =>
          match declaration.declaredDirection with
          | .error error => .error error
          | .ok direction =>
              match declaration.graph graphIdent with
              | .error error => .error error
              | .ok graph =>
                  Problem.checked {
                    name := declaration.name
                    graph, facts, initial, direction
                    gen := lists graph Node.gen declaration.nodes
                    kill := lists graph Node.kill declaration.nodes }

end Declaration

end GenKill
