import GenKill.Proofs.Dot.Attributes
import GenKill.Proofs.Dot.Reader

/-!
# Reading keeps the multigraph of a text

The statements of a text bring in nodes and draw lines between nodes that they
have brought in.  A line does not keep its ends when it becomes an edge: they
are looked up again, by label.  Still no node and no line is lost, merged or
doubled, since reading fails if two nodes share a label, or if a line ends at a
node whose identifier is empty, and for no other reason.
-/

namespace GenKill.Dot

namespace Sketch

/-! ### Drawing -/

/-- A later sketch has all nodes of an earlier one, and its lines end at its
nodes if those of the earlier one did. -/
structure Grows (earlier later : Sketch) : Prop where
  length_le : earlier.nodes.length ≤ later.nodes.length
  within : LinesWithin earlier earlier.lines → LinesWithin later later.lines

/-- The numbers are numbers of nodes of the sketch. -/
def Has (sketch : Sketch) (indices : List Nat) : Prop :=
  ∀ index ∈ indices, index < sketch.nodes.length

namespace Grows

theorem refl (sketch : Sketch) : Grows sketch sketch := ⟨Nat.le_refl _, id⟩

theorem trans {first second third : Sketch} (hleft : Grows first second)
    (hright : Grows second third) : Grows first third :=
  ⟨Nat.le_trans hleft.length_le hright.length_le, hright.within ∘ hleft.within⟩

theorem has {earlier later : Sketch} (hgrows : Grows earlier later)
    {indices : List Nat} (hhas : earlier.Has indices) : later.Has indices :=
  fun index hindex => Nat.lt_of_lt_of_le (hhas index hindex) hgrows.length_le

/-- More nodes, and the same lines. -/
theorem of_lines {earlier later : Sketch}
    (hle : earlier.nodes.length ≤ later.nodes.length)
    (hlines : later.lines = earlier.lines) : Grows earlier later := by
  refine ⟨hle, fun hwithin line hline => ?_⟩
  rw [hlines] at hline
  obtain ⟨hsource, htarget⟩ := hwithin line hline
  exact ⟨Nat.lt_of_lt_of_le hsource hle, Nat.lt_of_lt_of_le htarget hle⟩

end Grows

theorem grows_mention (sketch : Sketch) (key : Text) :
    Grows sketch (sketch.mention key).2 ∧
      (sketch.mention key).2.Has [(sketch.mention key).1] := by
  rw [mention]
  split
  · rename_i index hfound
    obtain ⟨hindex, -⟩ := List.findIdx?_eq_some_iff_getElem.mp hfound
    refine ⟨.refl sketch, fun other hother => ?_⟩
    rw [List.mem_singleton.mp hother]
    exact hindex
  · refine ⟨.of_lines ?_ rfl, fun other hother => ?_⟩
    · simp
    · rw [List.mem_singleton.mp hother]
      simp

theorem grows_setNode (sketch : Sketch) (index : Nat)
    (settings : List Setting) : Grows sketch (sketch.setNode index settings) :=
  .of_lines (Nat.le_of_eq (List.length_modify _ _ _).symm) rfl

theorem grows_join {sketch : Sketch} {sources targets : List Nat}
    (hsources : sketch.Has sources) (htargets : sketch.Has targets)
    (settings : List Setting) :
    Grows sketch (sketch.join sources targets settings) := by
  refine ⟨Nat.le_refl _, fun hwithin line hline => ?_⟩
  rcases List.mem_append.mp hline with hold | hnew
  · exact hwithin line hold
  · obtain ⟨source, hsource, hpairs⟩ := List.mem_flatMap.mp hnew
    obtain ⟨target, htarget, rfl⟩ := List.mem_map.mp hpairs
    exact ⟨hsources source hsource, htargets target htarget⟩

theorem has_since (sketch earlier : Sketch) :
    sketch.Has (sketch.since earlier) := by
  intro index hindex
  obtain ⟨hlow, hhigh⟩ := List.mem_range'_1.mp hindex
  omega

mutual

theorem grows_drawVertex (sketch : Sketch) : (vertex : Vertex) →
    Grows sketch (sketch.drawVertex vertex).2 ∧
      (sketch.drawVertex vertex).2.Has (sketch.drawVertex vertex).1
  | .node place => by
      rw [drawVertex]
      exact sketch.grows_mention place.id
  | .group _ statements => by
      rw [drawVertex]
      exact ⟨grows_drawAll sketch statements, has_since _ sketch⟩

theorem grows_drawLinks {sketch : Sketch} {sources : List Nat}
    (hsources : sketch.Has sources) (settings : List Setting) :
    (links : List Link) → Grows sketch (sketch.drawLinks sources settings links)
  | [] => by
      rw [drawLinks]
      exact .refl sketch
  | .mk _ vertex :: rest => by
      rw [drawLinks]
      obtain ⟨hvertex, htargets⟩ := grows_drawVertex sketch vertex
      have hrest := grows_drawLinks htargets settings rest
      have hjoin :=
        grows_join (hrest.has (hvertex.has hsources)) (hrest.has htargets)
          settings
      exact (hvertex.trans hrest).trans hjoin

theorem grows_draw (sketch : Sketch) : (statement : Statement) →
    Grows sketch (sketch.draw statement)
  | .node place settings => by
      rw [draw]
      exact (sketch.grows_mention place.id).1.trans (grows_setNode _ _ settings)
  | .edge first links settings => by
      rw [draw]
      obtain ⟨hfirst, hsources⟩ := grows_drawVertex sketch first
      exact hfirst.trans (grows_drawLinks hsources settings links)
  | .defaults subject settings => by
      cases subject <;> exact .of_lines (Nat.le_refl _) rfl
  | .assign _ => by
      rw [draw]
      exact .refl sketch
  | .group _ statements => by
      rw [draw]
      exact grows_drawAll sketch statements

/-- Drawing statements only adds to a sketch. -/
theorem grows_drawAll (sketch : Sketch) : (statements : List Statement) →
    Grows sketch (sketch.drawAll statements)
  | [] => by
      rw [drawAll]
      exact .refl sketch
  | statement :: rest => by
      rw [drawAll]
      exact (grows_draw sketch statement).trans (grows_drawAll _ rest)

end

theorem linesWithin_ofGraph (graph : Document.Graph) :
    LinesWithin (ofGraph graph) (ofGraph graph).lines :=
  (grows_drawAll _ graph.statements).within fun _ hline =>
    absurd hline List.not_mem_nil

/-! ### What can go wrong -/

/-- Two nodes have the same identifier once escaped quotes are resolved, and it
is not empty. -/
def Clashes (sketch : Sketch) : Prop :=
  ∃ (first second : Nat) (left right : Node), first < second ∧
    sketch.nodes[first]? = some left ∧ sketch.nodes[second]? = some right ∧
    Identifier.unescape left.id = Identifier.unescape right.id ∧
    Identifier.unescape left.id ≠ []

def Dangles (sketch : Sketch) : Prop :=
  ∃ line ∈ sketch.lines, ∃ node : Node, node.id = [] ∧
    (sketch.nodes[line.source]? = some node ∨
      sketch.nodes[line.target]? = some node)

variable {sketch : Sketch} {ident : Nat}

/-- Labels are distinct exactly if no two nodes clash. -/
theorem labelsDistinct_iff :
    LabelsDistinct ((sketch.nodes.map Node.entry).map GenKill.Node.bare) ↔
      ¬ sketch.Clashes := by
  rw [LabelsDistinct, List.map_map, List.pairwise_map,
    List.pairwise_iff_getElem]
  constructor
  · rintro hdistinct ⟨first, second, left, right, hlt, hleft, hright, heq, hne⟩
    obtain ⟨hfirst, rfl⟩ := List.getElem?_eq_some_iff.mp hleft
    obtain ⟨hsecond, rfl⟩ := List.getElem?_eq_some_iff.mp hright
    exact hne (hdistinct first second hfirst hsecond hlt heq)
  · intro hclash first second hfirst hsecond hlt heq
    by_contra hne
    exact hclash ⟨first, second, _, _, hlt, List.getElem?_eq_getElem hfirst,
      List.getElem?_eq_getElem hsecond, heq, hne⟩

theorem unescape_eq_nil_iff (text : Text) :
    Identifier.unescape text = [] ↔ text = [] := by
  fun_cases Identifier.unescape text <;> simp

theorem labelAt_eq_nil_iff {index : Nat}
    (hindex : index < sketch.nodes.length) :
    sketch.labelAt index = [] ↔
      ∃ node : Node, node.id = [] ∧ sketch.nodes[index]? = some node := by
  rw [labelAt, List.getElem?_eq_getElem hindex, Option.map_some,
    Option.getD_some, Node.label, unescape_eq_nil_iff]
  constructor
  · exact fun hid => ⟨_, hid, rfl⟩
  · rintro ⟨node, hid, hnode⟩
    rwa [Option.some.inj hnode]

/-- All lines are tied exactly if none ends at a node with an empty identifier.
-/
theorem forall_isTied_iff (hwithin : LinesWithin sketch sketch.lines) :
    (∀ line ∈ sketch.lines, sketch.IsTied line) ↔ ¬ sketch.Dangles := by
  rw [Dangles]
  push Not
  refine forall₂_congr fun line hline => ?_
  obtain ⟨hsource, htarget⟩ := hwithin line hline
  rw [IsTied, Ne, Ne, labelAt_eq_nil_iff hsource, labelAt_eq_nil_iff htarget]
  push Not
  exact ⟨fun htied node hid => ⟨htied.1 node hid, htied.2 node hid⟩,
    fun htied =>
      ⟨fun node hid => (htied node hid).1, fun node hid => (htied node hid).2⟩⟩

/-- The label that a line misses is the empty one: all others are labels of
nodes. -/
theorem Added.eq_nil_of_misses {graph : Graph} {pair : Text × Text}
    {label : Text} (hadded : Added sketch graph)
    (hwithin : LinesWithin sketch sketch.lines)
    (hpair : pair ∈ sketch.lines.map sketch.ends)
    (hmisses : graph.Misses pair label) : label = [] := by
  obtain ⟨line, hline, rfl⟩ := List.mem_map.mp hpair
  obtain ⟨hnone, hlabel⟩ := hmisses
  have hends : ∃ index < sketch.nodes.length, label = sketch.labelAt index := by
    rcases hlabel with hsource | ⟨-, htarget⟩
    · exact ⟨line.source, (hwithin line hline).1, hsource⟩
    · exact ⟨line.target, (hwithin line hline).2, htarget⟩
  obtain ⟨index, hindex, rfl⟩ := hends
  rw [hadded.find?_labelAt hindex] at hnone
  by_contra hne
  rw [if_neg hne] at hnone
  cases hnone

/-- A sketch becomes a graph, or two of its nodes clash, or else one of its
lines dangles. -/
theorem toGraph_cases (ident : Nat)
    (hwithin : LinesWithin sketch sketch.lines) :
    (∃ label, sketch.toGraph ident = .error (.duplicateLabel label)) ∧
      sketch.Clashes ∨
        sketch.toGraph ident = .error (.unknownLabel []) ∧ ¬ sketch.Clashes ∧
          sketch.Dangles ∨
        (∃ graph, sketch.toGraph ident = .ok graph) ∧ ¬ sketch.Clashes ∧
          ¬ sketch.Dangles := by
  have hgraph := exists_toGraph_iff ident hwithin
  rw [labelsDistinct_iff, forall_isTied_iff hwithin] at hgraph
  have hnodes :=
    Graph.exists_addNodes_iff (sketch.frame ident) (sketch.nodes.map Node.entry)
  rw [frame, Graph.empty, List.nil_append, labelsDistinct_iff, ← Graph.empty,
    ← frame] at hnodes
  cases hadd : (sketch.frame ident).addNodes (sketch.nodes.map Node.entry) with
  | error error =>
      obtain ⟨label, -, rfl⟩ := Graph.addNodes_eq_error hadd
      refine .inl ⟨⟨label, by rw [toGraph, hadd]⟩, ?_⟩
      by_contra hclash
      exact not_exists_of_eq_error hadd (hnodes.mpr hclash)
  | ok nodes =>
      have hclash := hnodes.mp ⟨nodes, hadd⟩
      have hadded := added_of_addNodes hadd
      cases hjoin : nodes.addEdges (sketch.lines.map sketch.ends) with
      | error error =>
          obtain ⟨pair, label, hfirst, hmisses, rfl⟩ :=
            Graph.addEdges_eq_error hjoin
          have hempty := hadded.eq_nil_of_misses hwithin hfirst.mem hmisses
          have herror : sketch.toGraph ident = .error (.unknownLabel []) := by
            rw [toGraph, hadd]
            simp only [hjoin, hempty]
          refine .inr (.inl ⟨herror, hclash, ?_⟩)
          by_contra hdangles
          exact not_exists_of_eq_error herror (hgraph.mpr ⟨hclash, hdangles⟩)
      | ok lines =>
          have hok : sketch.toGraph ident = .ok (sketch.attributed lines) := by
            rw [toGraph, hadd]
            simp only [hjoin]
          exact .inr (.inr ⟨⟨_, hok⟩, hgraph.mp ⟨_, hok⟩⟩)

/-- A graph has the nodes of a sketch, in order, and its lines between the same
nodes. -/
structure Rebuilds (sketch : Sketch) (graph : Graph) : Prop where
  length_nodes : graph.nodes.length = sketch.nodes.length
  node : ∀ (index : Nat) (drawn : Node), sketch.nodes[index]? = some drawn →
    ∃ node,
      graph.nodes[index]? = some node ∧
        node.label = Identifier.unescape drawn.id ∧
        node.name =
          ((drawn.attributes.get? "label").map Identifier.unescape).getD
            node.label ∧
        node.attributes.get? "label" = none
  ends : graph.edges.map (fun edge => (edge.source, edge.target)) =
    sketch.lines.map fun line => (line.source, line.target)

/-- The graph has the nodes and the lines of the sketch, in order. -/
theorem rebuilds_of_toGraph (hwithin : LinesWithin sketch sketch.lines)
    {graph : Graph} (hgraph : sketch.toGraph ident = .ok graph) :
    sketch.Rebuilds graph := by
  have hnodes := (toGraph_eq_ok hgraph).2.2
  refine ⟨by rw [hnodes, List.length_map], fun index drawn hdrawn => ?_, ?_⟩
  · refine ⟨drawn.described, by rw [hnodes, List.getElem?_map, hdrawn]; rfl,
      rfl, ?_, ?_⟩
    · change drawn.name = _
      rw [Node.name]
      cases drawn.attributes.get? "label" <;> rfl
    · exact (Table.get?_erase _ _ _).trans (if_pos rfl)
  · rw [toGraph_edges hwithin hgraph, List.map_map]
    rfl

end Sketch

/-! ### Texts -/

/-- The sketch of a text, which is all that its graph is built from. -/
def decode (source : Text) : Except Error Sketch :=
  match document? source with
  | none => .error .dotSyntax
  | some graphs => (onlyGraph graphs).map Sketch.ofGraph

theorem exists_of_decode {source : Text} {sketch : Sketch}
    (hdecode : decode source = .ok sketch) :
    ∃ graphs graph,
      document? source = some graphs ∧ onlyGraph graphs = .ok graph ∧
        sketch = Sketch.ofGraph graph := by
  rw [decode] at hdecode
  split at hdecode
  · cases hdecode
  · rename_i graphs hgraphs
    cases honly : onlyGraph graphs with
    | error error =>
        rw [honly] at hdecode
        cases hdecode
    | ok graph =>
        rw [honly] at hdecode
        cases hdecode
        exact ⟨graphs, graph, hgraphs, honly, rfl⟩

/-- A text that can be decoded is refused for a label that two nodes share, or
else for a line at a node with an empty identifier, and for nothing else.
Otherwise the graph has exactly the nodes and lines that were decoded: each node
under its identifier, with the name that its `label` gives it, and each edge
between the nodes of its line. -/
theorem readGraph_rebuilds {source : Text} {sketch : Sketch}
    (hdecode : decode source = .ok sketch) (ident : Nat) :
    ((∃ label, readGraph ident source = .error (.duplicateLabel label)) ↔
        sketch.Clashes) ∧
      (readGraph ident source = .error (.unknownLabel []) ↔
        ¬ sketch.Clashes ∧ sketch.Dangles) ∧
      ((∃ graph, readGraph ident source = .ok graph) ↔
        ¬ sketch.Clashes ∧ ¬ sketch.Dangles) ∧
      ∀ graph, readGraph ident source = .ok graph → sketch.Rebuilds graph := by
  obtain ⟨graphs, document, hgraphs, honly, rfl⟩ := exists_of_decode hdecode
  have hwithin := Sketch.linesWithin_ofGraph document
  have hread : readGraph ident source =
      (Sketch.ofGraph document).toGraph ident := by
    rw [readGraph, hgraphs]
    simp only [honly]
  rw [hread]
  rcases Sketch.toGraph_cases ident hwithin with
    ⟨⟨label, herror⟩, hclashes⟩ | ⟨herror, hclashes, hdangles⟩ |
    ⟨⟨graph, hok⟩, hclashes, hdangles⟩
  · simp [herror, hclashes]
  · simp [herror, hclashes, hdangles]
  · have hrebuilds := Sketch.rebuilds_of_toGraph hwithin hok
    simp [hok, hclashes, hdangles, hrebuilds]

/-- Lines to and from the nodes of a group, a line from a node to itself, names
with escaped quotes, and a node with an empty identifier that no line
touches. -/
def tangledSource : Text :=
  Text.ofString
    "digraph \x7b\"b\\\"c\" -> \x7bd a\x7d -> \"b\\\"c\" a [label=\"x\"] a -> a \"\"\x7d"

/-- Two identifiers that differ by a backslash before a quote. -/
def clashingSource : Text :=
  Text.ofString "digraph \x7b\"a\\\"b\" \"a\\\\\\\"b\"\x7d"

theorem readGraph_rebuilds_tangled :
    (∃ sketch graph,
      decode tangledSource = .ok sketch ∧
        readGraph 0 tangledSource = .ok graph ∧
        sketch.nodes.map Sketch.Node.id = [Text.ofString "b\"c", "d", "a", ""] ∧
        graph.edges.map (fun edge => (edge.source, edge.target)) =
          [(1, 0), (2, 0), (0, 1), (0, 2), (2, 2)] ∧
        sketch.Rebuilds graph) ∧
    ∃ sketch label,
      decode clashingSource = .ok sketch ∧
        (sketch.nodes.map Sketch.Node.id).Nodup ∧
        sketch.Clashes ∧
        readGraph 0 clashingSource = .error (.duplicateLabel label) := by
  obtain ⟨sketch, hdecode, hids, hlines⟩ :=
    exists_ok_of_any (decode tangledSource)
      (fun sketch =>
        sketch.nodes.map Sketch.Node.id = [Text.ofString "b\"c", "d", "a", ""] ∧
          sketch.lines.map (fun line => (line.source, line.target)) =
            [(1, 0), (2, 0), (0, 1), (0, 2), (2, 2)]) (by decide +kernel)
  obtain ⟨graph, hread, -⟩ :=
    exists_ok_of_any (readGraph 0 tangledSource) (fun _ => True)
      (by decide +kernel)
  have hrebuilds := (readGraph_rebuilds hdecode 0).2.2.2 graph hread
  obtain ⟨other, hother, hpair⟩ := exists_ok_of_any (decode clashingSource)
    (fun sketch =>
      sketch.nodes.map Sketch.Node.id = [Text.ofString "a\"b", "a\\\"b"])
    (by decide +kernel)
  have hclashes : other.Clashes := by
    obtain ⟨left, rest, hnodes, hleft, hrest⟩ := List.map_eq_cons_iff.mp hpair
    obtain ⟨right, last, rfl, hright, -⟩ := List.map_eq_cons_iff.mp hrest
    refine ⟨0, 1, left, right, Nat.zero_lt_one, by rw [hnodes]; rfl,
      by rw [hnodes]; rfl, ?_, ?_⟩
    · rw [hleft, hright]
      decide +kernel
    · rw [hleft]
      decide +kernel
  obtain ⟨label, herror⟩ := (readGraph_rebuilds hother 0).1.mpr hclashes
  refine ⟨⟨sketch, graph, hdecode, hread, hids, hrebuilds.ends.trans hlines,
      hrebuilds⟩,
    other, label, hother, ?_, hclashes, herror⟩
  rw [hpair]
  decide +kernel

end GenKill.Dot
