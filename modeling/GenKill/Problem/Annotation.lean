import GenKill.Problem

/-!
# Problems as attributes of a graph

A graph can carry a problem in its attributes: `universe`, `initial` and
`direction` on the graph, `gen` and `kill` on its nodes.  `Problem.annotate`
writes them and `Problem.ofGraph` reads them.
-/

namespace GenKill.Problem

/-- The elements that an attribute of a node lists. -/
def listed (node : Node) (key : Text) : List Text :=
  Elements.split ((node.attributes.get? key).getD [])

/-- All elements that the nodes mention, gen before kill. -/
def mentioned (graph : Graph) : List Text :=
  graph.nodes.flatMap fun node => listed node "gen" ++ listed node "kill"

/-- Each element at its first occurrence. -/
def distinct : List Text → List Text → List Text
  | _, [] => []
  | seen, head :: tail =>
      if head ∈ seen then distinct seen tail
      else head :: distinct (head :: seen) tail

/-- The universe that a graph declares, or else the elements that its nodes
mention. -/
def declaredElements (graph : Graph) : List Text :=
  match graph.attributes.get? "universe" with
  | some elements => Elements.split elements
  | none => distinct [] (mentioned graph)

def declaredDirection (graph : Graph) : Except Error Direction :=
  match graph.attributes.get? "direction" with
  | some name => Direction.ofText name
  | none => .ok .forward

/-- The lists that nodes declare in an attribute. -/
def declaredLists (graph : Graph) (key : Text) : Table Site (List Text) :=
  Table.ofList (graph.nodes.zipIdx.filterMap fun (node, index) =>
    (node.attributes.get? key).map fun elements =>
      (graph.site index, Elements.split elements))

/-- The problem that a graph carries in its attributes; its universe gets the
given identity. -/
def ofGraph (ident : Nat) (graph : Graph) : Except Error Problem :=
  match Universe.ofList ident (declaredElements graph) with
  | .error error => .error error
  | .ok facts =>
      match Initial.ofText ((graph.attributes.get? "initial").getD []) with
      | .error error => .error error
      | .ok initial =>
          match declaredDirection graph with
          | .error error => .error error
          | .ok direction =>
              checked {
                name := graph.title
                graph, facts, initial, direction
                gen := declaredLists graph "gen"
                kill := declaredLists graph "kill" }

/-- Sets an attribute to a list of elements, or removes it for an empty or
missing list. -/
def setList (attributes : Attributes) (key : Text)
    (elements : Option (List Text)) : Attributes :=
  match elements with
  | none | some [] => attributes.erase key
  | some elements => attributes.insert key (Elements.join elements)

/-- The attributes of a node with its gen and kill lists, and its out set if
there is a system. -/
def annotateNode (problem : Problem) (system : Option System) (index : Nat)
    (node : Node) : Attributes :=
  let site := problem.graph.site index
  let defined :=
    setList (setList node.attributes "gen" (problem.gen.get? site)) "kill"
      (problem.kill.get? site)
  match system with
  | none => defined
  | some system =>
      defined.insert "out" (Elements.join (system.out.get site).elements)

/-- The graph of the problem with the problem recorded in its attributes. -/
def annotatedGraph (problem : Problem) (system : Option System) : Graph :=
  let graph := problem.graph
  let title := if graph.title = [] then problem.name else graph.title
  let attributes :=
    ((graph.attributes.insert "universe"
      (Elements.join problem.facts.elements)).insert
      "initial" problem.initial.text).insert "direction" problem.direction.text
  ((graph.withTitle title).withAttributes attributes).mapAttributes
    (problem.annotateNode system)

def annotate (problem : Problem) (system : Option System) : Problem :=
  { problem with graph := problem.annotatedGraph system }

end GenKill.Problem
