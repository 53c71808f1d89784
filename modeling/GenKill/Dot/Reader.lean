import GenKill.Dot.Grammar
import GenKill.Dot.Sketch

/-!
# Graphs from DOT text

The identifier of a node becomes its label and its `label` attribute its name.
Lines name their ends by label, so a line at a node with an empty identifier is
refused.
-/

namespace GenKill.Dot

namespace Sketch

/-- The attributes with escaped quotes resolved in keys and values. -/
def plain (attributes : Attributes) : Attributes :=
  attributes.entries.foldl
    (fun plain (key, value) =>
      plain.insert (Identifier.unescape key) (Identifier.unescape value))
    .empty

def Node.label (node : Node) : Text := Identifier.unescape node.id

def Node.name (node : Node) : Text :=
  match node.attributes.get? "label" with
  | some name => Identifier.unescape name
  | none => node.label

/-- The attributes without the one that holds the name. -/
def Node.others (node : Node) : Attributes :=
  (plain node.attributes).erase "label"

/-- The name and the label with which a node is added. -/
def Node.entry (node : Node) : Text × Text := (node.name, node.label)

/-- The label by which a line names a node. -/
def labelAt (sketch : Sketch) (index : Nat) : Text :=
  (sketch.nodes[index]?.map Node.label).getD []

/-- The labels by which a line names its ends. -/
def ends (sketch : Sketch) (line : Edge) : Text × Text :=
  (sketch.labelAt line.source, sketch.labelAt line.target)

/-- The graph that a sketch starts from. -/
def frame (sketch : Sketch) (ident : Nat) : GenKill.Graph :=
  Graph.empty ident (Identifier.unescape sketch.title) (plain sketch.attributes)

/-- A graph that has the nodes and lines of the sketch, with their
attributes. -/
def attributed (sketch : Sketch) (graph : GenKill.Graph) : GenKill.Graph :=
  (graph.mapAttributes fun index _ =>
      (sketch.nodes[index]?.map Node.others).getD .empty).mapEdgeAttributes
    fun index _ =>
      (sketch.lines[index]?.map fun line => plain line.attributes).getD .empty

/-- The graph that a sketch describes.  The nodes are added first, then the
lines, and attributes are set last. -/
def toGraph (sketch : Sketch) (ident : Nat) : Except Error GenKill.Graph :=
  match (sketch.frame ident).addNodes (sketch.nodes.map Node.entry) with
  | .error error => .error error
  | .ok nodes =>
      match nodes.addEdges (sketch.lines.map sketch.ends) with
      | .error error => .error error
      | .ok graph => .ok (sketch.attributed graph)

end Sketch

/-- Checks all graphs of a text, and gives the first if it is the only one. -/
def onlyGraph : List Document.Graph → Except Error Document.Graph
  | graphs =>
      match graphs.findSome? fun graph => graph.arrowError? with
      | some error => .error error
      | none =>
          match graphs with
          | [graph] => .ok graph
          | _ => .error (.graphCount graphs.length)

/-- Reads a DOT text as a graph with the given identity. -/
def readGraph (ident : Nat) (source : Text) : Except Error GenKill.Graph :=
  match document? source with
  | none => .error .dotSyntax
  | some graphs =>
      match onlyGraph graphs with
      | .error error => .error error
      | .ok graph => (Sketch.ofGraph graph).toGraph ident

end GenKill.Dot
