import GenKill.Dot.Reader
import GenKill.Proofs.Graph.Growth

/-!
# The graph that a sketch describes

Lines name their ends by label, and labels are looked up in the graph that is
being built.  As the nodes were added first and their labels are distinct, each
line finds the nodes it was drawn between, or a label is empty and reading
fails.
-/

namespace GenKill.Dot.Sketch

def Node.described (node : Node) : GenKill.Node :=
  { name := node.name, label := node.label, attributes := node.others }

/-! ### Ends of lines -/

/-- The nodes of a sketch have been added to a graph. -/
def Added (sketch : Sketch) (graph : Graph) : Prop :=
  graph.nodes = (sketch.nodes.map Node.entry).map GenKill.Node.bare

/-- The label of a node finds that node, unless it is empty. -/
theorem Added.find?_labelAt {sketch : Sketch} {graph : Graph}
    (hadded : Added sketch graph) {index : Nat}
    (hindex : index < sketch.nodes.length) :
    graph.find? (sketch.labelAt index) =
      if sketch.labelAt index = [] then none else some index := by
  split
  · rename_i hlabel
    rw [hlabel, Graph.find?, if_pos rfl]
  · rename_i hlabel
    rw [Graph.find?_eq_some_iff]
    refine ⟨hlabel, GenKill.Node.bare sketch.nodes[index].entry, ?_, ?_⟩
    · rw [hadded, List.getElem?_map, List.getElem?_map,
        List.getElem?_eq_getElem hindex]
      rfl
    · rw [labelAt, List.getElem?_eq_getElem hindex]
      rfl

/-- The ends of every line are nodes of the sketch. -/
def LinesWithin (sketch : Sketch) (lines : List Edge) : Prop :=
  ∀ line ∈ lines,
    line.source < sketch.nodes.length ∧ line.target < sketch.nodes.length

def IsTied (sketch : Sketch) (line : Edge) : Prop :=
  sketch.labelAt line.source ≠ [] ∧ sketch.labelAt line.target ≠ []

section Lines

variable {sketch : Sketch} {graph result : Graph} {lines : List Edge}
  {line edge : Edge}

/-- The ends of a line are known exactly if they have labels. -/
theorem Added.knows_ends_iff (hadded : Added sketch graph)
    (hline : line.source < sketch.nodes.length ∧
      line.target < sketch.nodes.length) :
    graph.Knows (sketch.ends line) ↔ sketch.IsTied line := by
  rw [Graph.Knows, ends, hadded.find?_labelAt hline.1,
    hadded.find?_labelAt hline.2, IsTied]
  by_cases hsource : sketch.labelAt line.source = [] <;>
    by_cases htarget : sketch.labelAt line.target = [] <;>
        simp [hsource, htarget]

/-- A line becomes an edge between the nodes it was drawn between. -/
theorem Added.eq_of_joins (hadded : Added sketch graph)
    (hline : line.source < sketch.nodes.length ∧
      line.target < sketch.nodes.length)
    (hjoins : graph.Joins (sketch.ends line) edge) :
    edge = { source := line.source, target := line.target } := by
  have hsource := hjoins.source
  have htarget := hjoins.target
  rw [ends, hadded.find?_labelAt hline.1] at hsource
  rw [ends, hadded.find?_labelAt hline.2] at htarget
  split at hsource
  · cases hsource
  · split at htarget
    · cases htarget
    · obtain ⟨source, target, attributes⟩ := edge
      cases hsource
      cases htarget
      cases hjoins.attributes
      rfl

/-- Lines become edges between the nodes they were drawn between, in order. -/
theorem Added.edges_of_addEdges (hadded : Added sketch graph)
    (hwithin : LinesWithin sketch lines)
    (hadd : graph.addEdges (lines.map sketch.ends) = .ok result) :
    result.edges = graph.edges ++
      lines.map fun line =>
        { source := line.source, target := line.target } := by
  obtain ⟨edges, hgrown, hall⟩ := Graph.exists_edges_of_addEdges hadd
  rw [hgrown.edges]
  congr 1
  rw [List.forall₂_map_left_iff] at hall
  have hwithin' := (List.forall₂_and_left _ _).mpr ⟨hwithin, hall⟩
  have hsame := hwithin'.imp fun line edge hline =>
    (hadded.eq_of_joins hline.1 hline.2).symm
  rw [← List.forall₂_map_left_iff, List.forall₂_eq_eq_eq] at hsame
  exact hsame.symm

end Lines

/-! ### The whole graph -/

section Whole

variable {sketch : Sketch} {ident : Nat} {graph nodes : Graph}

theorem added_of_addNodes
    (hadd : (sketch.frame ident).addNodes (sketch.nodes.map Node.entry) =
      .ok nodes) :
    Added sketch nodes :=
  (Graph.grown_addNodes hadd).nodes

theorem exists_of_toGraph (hgraph : sketch.toGraph ident = .ok graph) :
    ∃ nodes lines,
      (sketch.frame ident).addNodes (sketch.nodes.map Node.entry) = .ok nodes ∧
        nodes.addEdges (sketch.lines.map sketch.ends) = .ok lines ∧
        graph = sketch.attributed lines := by
  rw [toGraph] at hgraph
  split at hgraph
  · cases hgraph
  · rename_i nodes hnodes
    split at hgraph
    · cases hgraph
    · rename_i lines hlines
      cases hgraph
      exact ⟨nodes, lines, hnodes, hlines, rfl⟩

/-- The graph has the title, the attributes and the nodes of the sketch. -/
theorem toGraph_eq_ok (hgraph : sketch.toGraph ident = .ok graph) :
    graph.title = Identifier.unescape sketch.title ∧
      graph.attributes = plain sketch.attributes ∧
      graph.nodes = sketch.nodes.map Node.described := by
  obtain ⟨nodes, lines, hnodes, hlines, rfl⟩ := exists_of_toGraph hgraph
  obtain ⟨edges, hgrown, -⟩ := Graph.exists_edges_of_addEdges hlines
  have hframe := hgrown.frame.trans (Graph.grown_addNodes hnodes).frame
  refine ⟨hframe.title, hframe.attributes, ?_⟩
  have hadded : lines.nodes =
      (sketch.nodes.map Node.entry).map GenKill.Node.bare := by
    rw [hgrown.nodes, List.append_nil]
    exact added_of_addNodes hnodes
  apply List.ext_getElem?
  intro index
  simp only [attributed, Graph.mapEdgeAttributes, Graph.mapAttributes,
    List.getElem?_mapIdx, hadded, List.getElem?_map]
  cases sketch.nodes[index]? with
  | none => rfl
  | some node => rfl

theorem toGraph_edges (hwithin : LinesWithin sketch sketch.lines)
    (hgraph : sketch.toGraph ident = .ok graph) :
    graph.edges =
      sketch.lines.map fun line =>
        { line with attributes := plain line.attributes } := by
  obtain ⟨nodes, lines, hnodes, hlines, rfl⟩ := exists_of_toGraph hgraph
  have hedges := (added_of_addNodes hnodes).edges_of_addEdges hwithin hlines
  rw [(Graph.grown_addNodes hnodes).edges] at hedges
  apply List.ext_getElem?
  intro index
  simp only [attributed, Graph.mapEdgeAttributes, Graph.mapAttributes,
    List.getElem?_mapIdx, hedges, frame, Graph.empty, List.nil_append,
    List.getElem?_map]
  cases sketch.lines[index]? with
  | none => rfl
  | some line => rfl

/-- A sketch describes a graph exactly if its labels are distinct and no line
ends at a node without a label. -/
theorem exists_toGraph_iff (ident : Nat)
    (hwithin : LinesWithin sketch sketch.lines) :
    (∃ graph, sketch.toGraph ident = .ok graph) ↔
      LabelsDistinct ((sketch.nodes.map Node.entry).map GenKill.Node.bare) ∧
        ∀ line ∈ sketch.lines, sketch.IsTied line := by
  have hnodes :=
    Graph.exists_addNodes_iff (sketch.frame ident) (sketch.nodes.map Node.entry)
  have hlines : ∀ nodes, Added sketch nodes →
      ((∃ graph, nodes.addEdges (sketch.lines.map sketch.ends) = .ok graph) ↔
        ∀ line ∈ sketch.lines, sketch.IsTied line) := by
    intro nodes hadded
    rw [Graph.exists_addEdges_iff, List.forall_mem_map]
    exact forall₂_congr fun line hline =>
      hadded.knows_ends_iff (hwithin line hline)
  constructor
  · rintro ⟨graph, hgraph⟩
    obtain ⟨nodes, lines, hadd, hjoin, -⟩ := exists_of_toGraph hgraph
    exact ⟨hnodes.mp ⟨nodes, hadd⟩,
      (hlines nodes (added_of_addNodes hadd)).mp ⟨lines, hjoin⟩⟩
  · rintro ⟨hdistinct, htied⟩
    obtain ⟨nodes, hadd⟩ := hnodes.mpr hdistinct
    obtain ⟨lines, hjoin⟩ := (hlines nodes (added_of_addNodes hadd)).mpr htied
    refine ⟨sketch.attributed lines, ?_⟩
    rw [toGraph, hadd]
    simp only [hjoin]

theorem exists_toGraph (ident : Nat)
    (hdistinct : (sketch.nodes.map Node.label).Nodup)
    (hlabels : ∀ node ∈ sketch.nodes, node.label ≠ [])
    (hwithin : LinesWithin sketch sketch.lines) :
    ∃ graph, sketch.toGraph ident = .ok graph := by
  rw [exists_toGraph_iff ident hwithin]
  have hlabelAt : ∀ index < sketch.nodes.length, sketch.labelAt index ≠ [] := by
    intro index hindex
    rw [labelAt, List.getElem?_eq_getElem hindex]
    exact hlabels _ (List.getElem_mem hindex)
  constructor
  · rw [LabelsDistinct, List.map_map, List.pairwise_map]
    exact (List.pairwise_map.mp hdistinct).imp fun hne heq => absurd heq hne
  · intro line hline
    exact ⟨hlabelAt _ (hwithin line hline).1, hlabelAt _ (hwithin line hline).2⟩

end Whole

end GenKill.Dot.Sketch
