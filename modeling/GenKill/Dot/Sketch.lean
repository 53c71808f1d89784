import GenKill.Dot.Document
import GenKill.Graph

/-!
# What the statements of a DOT text describe

The statements are carried out in order.  A node exists from its first mention
on; two identifiers mean the same node only if they are written the same.  A
subgraph at an end of an edge stands for the nodes that its statements bring
into existence.
-/

namespace GenKill.Dot

structure Sketch.Node where
  /-- The identifier as written. -/
  key : Text
  attributes : Attributes := .empty

/-- The nodes and lines of a graph, with identifiers and attribute texts already
unquoted. -/
structure Sketch where
  title : Text := []
  attributes : Attributes := .empty
  nodes : List Sketch.Node := []
  lines : List Edge := []

namespace Sketch

/-- The identifier of a node without its quotes. -/
def Node.id (node : Node) : Text := Identifier.read node.key

/-- Later settings win. -/
def assign (attributes : Attributes) (settings : List Setting) : Attributes :=
  settings.foldl
    (fun attributes setting =>
      attributes.insert (Identifier.read setting.key)
        (Identifier.read setting.value))
    attributes

/-- The number of the node with a written identifier, which is added if it is
new. -/
def mention (sketch : Sketch) (key : Text) : Nat × Sketch :=
  match sketch.nodes.findIdx? fun node => node.key = key with
  | some index => (index, sketch)
  | none =>
      (sketch.nodes.length, { sketch with nodes := sketch.nodes ++ [{ key }] })

def setNode (sketch : Sketch) (index : Nat) (settings : List Setting) :
    Sketch :=
  { sketch with
    nodes := sketch.nodes.modify index fun node =>
      { node with attributes := assign node.attributes settings } }

/-- Lines from each source to each target. -/
def join (sketch : Sketch) (sources targets : List Nat)
    (settings : List Setting) : Sketch :=
  let attributes := assign .empty settings
  let lines := sources.flatMap fun source =>
    targets.map fun target => { source, target, attributes }
  { sketch with lines := sketch.lines ++ lines }

/-- The nodes that a sketch has and an earlier one had not. -/
def since (sketch earlier : Sketch) : List Nat :=
  List.range' earlier.nodes.length (sketch.nodes.length - earlier.nodes.length)

mutual

/-- Carries out the statements of a vertex; the nodes it stands for. -/
def drawVertex (sketch : Sketch) : Vertex → List Nat × Sketch
  | .node place =>
      let (index, sketch) := sketch.mention place.id
      ([index], sketch)
  | .group _ statements =>
      let drawn := sketch.drawAll statements
      (drawn.since sketch, drawn)

/-- Draws the ends left to right, then the lines between them, the last pair
first. -/
def drawLinks (sketch : Sketch) (sources : List Nat) (settings : List Setting) :
    List Link → Sketch
  | [] => sketch
  | .mk _ vertex :: rest =>
      let (targets, sketch) := sketch.drawVertex vertex
      (sketch.drawLinks targets settings rest).join sources targets settings

def draw (sketch : Sketch) : Statement → Sketch
  | .node place settings =>
      let (index, sketch) := sketch.mention place.id
      sketch.setNode index settings
  | .edge first links settings =>
      let (sources, sketch) := sketch.drawVertex first
      sketch.drawLinks sources settings links
  | .defaults .graph settings =>
      { sketch with attributes := assign sketch.attributes settings }
  | .defaults _ _ => sketch
  | .assign _ => sketch
  | .group _ statements => sketch.drawAll statements

def drawAll (sketch : Sketch) : List Statement → Sketch
  | [] => sketch
  | statement :: rest => (sketch.draw statement).drawAll rest

end

def ofGraph (graph : Document.Graph) : Sketch :=
  drawAll { title := Identifier.read graph.id } graph.statements

end Sketch

end GenKill.Dot
