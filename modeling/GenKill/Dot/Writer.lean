import GenKill.Dot.Identifier
import GenKill.Graph

/-!
# DOT text of a graph

Nodes stand in their own order, edges by source, then by target, then in their
own order.
-/

namespace GenKill

namespace Dot

/-- `key=value`, each quoted where it has to be. -/
def attributeText (entry : Text × Text) : Text :=
  Identifier.write entry.1 ++ "=" ++ Identifier.write entry.2

def attributeLine (entry : Text × Text) : Text :=
  "\t\t" ++ attributeText entry ++ "\n"

/-- The attributes of a node or edge: nothing, one in line, or one on each
line. -/
def attributeList : List (Text × Text) → Text
  | [] => []
  | [entry] => " [" ++ attributeText entry ++ "]"
  | entries => " [\n" ++ entries.flatMap attributeLine ++ "\t]"

def nodeText (graph : Graph) (index : Nat) (node : Node) : Text :=
  "\t" ++ Identifier.write (graph.dotId index) ++
    attributeList node.shownAttributes ++ ";\n"

def edgeText (graph : Graph) (edge : Edge) : Text :=
  "\t" ++ Identifier.write (graph.dotId edge.source) ++ " -> " ++
    Identifier.write (graph.dotId edge.target) ++
    attributeList edge.attributes.entries ++ ";\n"

/-- The edges in the order in which they are written. -/
def sortedEdges (edges : List Edge) : List Edge :=
  edges.mergeSort fun left right =>
    left.source < right.source ||
      left.source = right.source && left.target ≤ right.target

/-- The parts of the text that stand between braces: attributes, nodes,
edges. -/
def sections (graph : Graph) : List Text :=
  let attributes :=
    if graph.attributes.entries.isEmpty then []
    else ["\tgraph [\n" ++ graph.attributes.entries.flatMap attributeLine ++
      "\t];\n"]
  let nodes :=
    if graph.nodes.isEmpty then []
    else ["\t// Node definitions.\n" ++
      (graph.nodes.mapIdx (nodeText graph)).flatten]
  let edges :=
    if graph.edges.isEmpty then []
    else ["\t// Edge definitions.\n" ++
      (sortedEdges graph.edges).flatMap (edgeText graph)]
  attributes ++ nodes ++ edges

end Dot

open Dot in
/-- The DOT text of a graph. -/
def Graph.toDot (graph : Graph) : Text :=
  let title : Text :=
    if graph.title = [] then [] else Identifier.write graph.title ++ " "
  let parts := Text.join "\n" (sections graph)
  -- attributes keep their empty line even if nothing follows them
  let gap : Text :=
    if graph.nodes.isEmpty && !graph.attributes.entries.isEmpty then "\n"
    else []
  "digraph " ++ title ++ "\x7b\n" ++ parts ++ gap ++ "\x7d"

end GenKill
