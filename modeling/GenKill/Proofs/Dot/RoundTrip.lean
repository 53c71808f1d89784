import GenKill.Proofs.Dot.Names
import GenKill.Proofs.Dot.Reader

/-!
# Writing a graph and reading it back

What comes back is the graph itself, with its edges in the order of the text, if
nothing in it is changed on the way.  Two things are: a node without a name or a
label comes back with its identifier in that place, and some texts come back
shorter or not at all.
-/

namespace GenKill

namespace Graph

theorem firstFree_congr {left right : Graph} (hnodes : left.nodes = right.nodes)
    (tries : Nat) (id : Text) :
    left.firstFree tries id = right.firstFree tries id := by
  induction tries generalizing id with
  | zero => rfl
  | succ tries ih => rw [firstFree, firstFree, find?, find?, hnodes, ih]

theorem dotId_congr {left right : Graph} (hnodes : left.nodes = right.nodes) :
    left.dotId = right.dotId := by
  funext index
  rw [dotId, dotId, hnodes]
  cases right.nodes[index]? with
  | none => rfl
  | some node => simp only [firstFree_congr hnodes]

end Graph

namespace Dot

open GenKill.Dot.Identifier

/-! ### The order of the edges -/

theorem sortedEdges_sortedEdges (edges : List Edge) :
    sortedEdges (sortedEdges edges) = sortedEdges edges := by
  apply List.mergeSort_of_pairwise
  apply List.pairwise_mergeSort
  · intro first second third
    simp only [Bool.or_eq_true, Bool.and_eq_true, decide_eq_true_eq]
    omega
  · intro left right
    simp only [Bool.or_eq_true, Bool.and_eq_true, decide_eq_true_eq]
    omega

/-- The text of a graph depends on its nodes only through their identifiers and
shown attributes, and on its edges only through their order in the text. -/
theorem toDot_congr {left right : Graph} (htitle : left.title = right.title)
    (hattributes : left.attributes = right.attributes)
    (hids : left.dotId = right.dotId)
    (hshown : left.nodes.map Node.shownAttributes =
      right.nodes.map Node.shownAttributes)
    (hedges : sortedEdges left.edges = sortedEdges right.edges) :
    left.toDot = right.toDot := by
  have hempty : left.edges.isEmpty = right.edges.isEmpty := by
    rw [Bool.eq_iff_iff, List.isEmpty_iff, List.isEmpty_iff,
      ← sortedEdges_eq_nil_iff, hedges, sortedEdges_eq_nil_iff]
  have hnone : left.nodes.isEmpty = right.nodes.isEmpty := by
    rw [← List.isEmpty_map, hshown, List.isEmpty_map]
  have hnodeText : nodeText left = nodeText right := by
    funext index node
    rw [nodeText, nodeText, hids]
  have hnodeTexts : left.nodes.mapIdx (nodeText left) =
      right.nodes.mapIdx (nodeText right) := by
    apply List.ext_getElem?
    intro index
    have hentries := congrArg (fun shown => shown[index]?) hshown
    simp only [List.getElem?_map] at hentries
    have htexts := congrArg (Option.map fun entries =>
      Text.ofString "\t" ++ write (right.dotId index) ++
        attributeList entries ++
        Text.ofString ";\n") hentries
    rw [Option.map_map, Option.map_map] at htexts
    rw [List.getElem?_mapIdx, List.getElem?_mapIdx, hnodeText]
    exact htexts
  have hedgeText : edgeText left = edgeText right := by
    funext edge
    rw [edgeText, edgeText, hids]
  have hsections : sections left = sections right := by
    rw [sections, sections, hattributes, hnone, hempty, hnodeTexts, hedgeText,
      hedges]
  rw [Graph.toDot, Graph.toDot, htitle, hsections, hnone, hattributes]

/-! ### Reading -/

/-- A text is read back exactly if its names can be scanned and its sketch
describes a graph. -/
theorem readGraph_toDot_eq_ok_iff {ident : Nat} {graph copy : Graph}
    (hfaithful : NamesHave Faithful graph) :
    readGraph ident graph.toDot = .ok copy ↔
      NamesHave Scannable graph ∧
        (Sketch.ofGraph (documentOf graph)).toGraph ident = .ok copy := by
  have honly : onlyGraph [documentOf graph] = .ok (documentOf graph) := rfl
  rw [readGraph, document?_toDot hfaithful, ← scannable_graphItems_iff]
  by_cases hscannable : ∀ item ∈ graphItems graph, item.Scannable
  · rw [if_pos hscannable]
    simp only [honly]
    exact ⟨fun hgraph => ⟨hscannable, hgraph⟩, And.right⟩
  · rw [if_neg hscannable]
    simp only [hscannable, false_and, reduceCtorEq]

/-- A graph that was read keeps no name among the attributes of a node. -/
theorem get?_labelKey_of_readGraph {ident : Nat} {source : Text} {graph : Graph}
    (hread : readGraph ident source = .ok graph) :
    ∀ node ∈ graph.nodes, node.attributes.get? labelKey = none := by
  rw [readGraph] at hread
  split at hread
  · cases hread
  · split at hread
    · cases hread
    · intro node hnode
      rw [(Sketch.toGraph_eq_ok hread).2.2] at hnode
      obtain ⟨drawn, -, rfl⟩ := List.mem_map.mp hnode
      exact (Table.get?_erase _ _ _).trans (if_pos rfl)

/-! ### What comes back -/

/-- A node as it comes back: under its identifier, which also stands in for a
missing name. -/
def returned (graph : Graph) (index : Nat) (node : Node) : Node where
  name := if node.name = [] then graph.dotId index else node.name
  label := graph.dotId index
  attributes := node.attributes

theorem described_of_kept {graph : Graph} {index : Nat} {node : Node}
    (hlabel : node.attributes.get? labelKey = none)
    (hfaithful : (nodePhrase graph index node).Faithful)
    (hkept : (nodePhrase graph index node).Has Kept) :
    Sketch.Node.described
        ⟨Sketch.keyOf (graph.dotId index), attributesOf node.shownAttributes⟩ =
      returned graph index node := by
  let read : Sketch.Node :=
    ⟨Sketch.keyOf (graph.dotId index), attributesOf node.shownAttributes⟩
  have hid : read.label = graph.dotId index :=
    (hkept.ids _ List.mem_cons_self).restored
      (hfaithful.ids _ List.mem_cons_self)
  have hattributes : read.attributes = attributesOf node.shownAttributes := rfl
  obtain ⟨hname, hothers⟩ :=
    node_of_kept hlabel hfaithful.entries hkept.entries hattributes
  rw [hid] at hname
  change read.described = _
  rw [Sketch.Node.described, returned, hid, hname, hothers]

theorem linesWithin_sketchOf (graph : Graph) :
    Sketch.LinesWithin (Sketch.sketchOf graph)
      (Sketch.sketchOf graph).lines := by
  intro line hline
  obtain ⟨edge, hedge, rfl⟩ := List.mem_map.mp hline
  have hends := graph.ends_lt edge ((mem_sortedEdges_iff _ _).mp hedge)
  rw [Sketch.sketchOf, List.length_mapIdx]
  exact hends

/-- The sketch of a text describes the nodes that are returned. -/
theorem described_sketchOf {graph : Graph}
    (hlabel : ∀ node ∈ graph.nodes, node.attributes.get? labelKey = none)
    (hfaithful : NamesHave Faithful graph) (hkept : NamesHave Kept graph) :
    (Sketch.sketchOf graph).nodes.map Sketch.Node.described =
      graph.nodes.mapIdx (returned graph) := by
  rw [Sketch.sketchOf, Sketch.map_mapIdx]
  refine List.mapIdx_eq_mapIdx_iff.mpr fun index hindex => ?_
  have hphrase := nodePhrase_mem (List.getElem?_eq_getElem hindex)
  exact described_of_kept (hlabel _ (List.getElem_mem hindex))
    (hfaithful.phrases _ hphrase) (hkept.phrases _ hphrase)

def dotIds (graph : Graph) : List Text :=
  graph.nodes.mapIdx fun index _ => graph.dotId index

theorem ne_nil_of_mem_dotIds {graph : Graph} {id : Text}
    (hid : id ∈ dotIds graph) : id ≠ [] := by
  obtain ⟨index, hindex, rfl⟩ := List.mem_mapIdx.mp hid
  exact Graph.dotId_ne_nil hindex

/-- A graph whose nodes keep their identifiers is read from what its text
describes, whatever becomes of its other texts, if these can be scanned. -/
theorem exists_readGraph {graph : Graph} (ident : Nat)
    (hdistinct : (dotIds graph).Nodup) (hfaithful : NamesHave Faithful graph)
    (hscannable : NamesHave Scannable graph)
    (hids : ∀ id ∈ dotIds graph, unescape (recovered id) = id) :
    ∃ copy, readGraph ident graph.toDot = .ok copy ∧
      (Sketch.sketchOf graph).toGraph ident = .ok copy := by
  have hlabels : (Sketch.sketchOf graph).nodes.map Sketch.Node.label =
      dotIds graph := by
    rw [Sketch.sketchOf, Sketch.map_mapIdx]
    refine List.mapIdx_eq_mapIdx_iff.mpr fun index hindex => ?_
    exact hids _ (List.mem_mapIdx.mpr ⟨index, hindex, rfl⟩)
  have hkeys : (Sketch.dotKeys graph).Nodup := by
    have hsame : (Sketch.dotKeys graph).map (fun key => unescape (read key)) =
        dotIds graph := by
      rw [← hlabels, Sketch.sketchOf, Sketch.dotKeys, Sketch.map_mapIdx,
        Sketch.map_mapIdx]
      rfl
    exact List.Nodup.of_map _ (hsame ▸ hdistinct)
  have hnonempty : ∀ node ∈ (Sketch.sketchOf graph).nodes, node.label ≠ [] :=
    fun node hnode => ne_nil_of_mem_dotIds (hlabels ▸ List.mem_map_of_mem hnode)
  obtain ⟨copy, hcopy⟩ :=
    Sketch.exists_toGraph ident (hlabels ▸ hdistinct) hnonempty
      (linesWithin_sketchOf graph)
  refine ⟨copy, ?_, hcopy⟩
  rw [readGraph_toDot_eq_ok_iff hfaithful, Sketch.ofGraph_documentOf hkeys]
  exact ⟨hscannable, hcopy⟩

/-- If every name in the text of a graph is kept, what comes back is the graph
with its edges in the order of the text and with identifiers in place of missing
labels and names. -/
theorem exists_readGraph_toDot {graph : Graph} (ident : Nat)
    (hlabel : ∀ node ∈ graph.nodes, node.attributes.get? labelKey = none)
    (hdistinct : (dotIds graph).Nodup) (hfaithful : NamesHave Faithful graph)
    (hkept : NamesHave Kept graph) :
    ∃ copy, readGraph ident graph.toDot = .ok copy ∧ copy.title = graph.title ∧
      copy.attributes = graph.attributes ∧
      copy.nodes = graph.nodes.mapIdx (returned graph) ∧
      copy.edges = sortedEdges graph.edges := by
  have hids : ∀ id ∈ dotIds graph, unescape (recovered id) = id := by
    intro id hid
    obtain ⟨index, hindex, rfl⟩ := List.mem_mapIdx.mp hid
    have hphrase := nodePhrase_mem (List.getElem?_eq_getElem hindex)
    exact ((hkept.phrases _ hphrase).ids _ List.mem_cons_self).restored
      ((hfaithful.phrases _ hphrase).ids _ List.mem_cons_self)
  obtain ⟨copy, hcopy, hgraph⟩ := exists_readGraph ident hdistinct hfaithful
    (hkept.imp fun _ hkept => hkept.scannable) hids
  obtain ⟨htitle, hattributes, hnodes⟩ := Sketch.toGraph_eq_ok hgraph
  refine ⟨copy, hcopy, ?_, ?_, ?_, ?_⟩
  · exact htitle.trans (hkept.title.restored hfaithful.title)
  · exact hattributes.trans
      (plain_attributesOf hkept.attributes hfaithful.attributes)
  · exact hnodes.trans (described_sketchOf hlabel hfaithful hkept)
  · rw [Sketch.toGraph_edges (linesWithin_sketchOf graph) hgraph,
      Sketch.sketchOf, List.map_map]
    refine (List.map_congr_left fun edge hedge => ?_).trans (List.map_id _)
    have hphrase := edgePhrase_mem ((mem_sortedEdges_iff _ _).mp hedge)
    have hsame := plain_attributesOf (hkept.phrases _ hphrase).entries
      (hfaithful.phrases _ hphrase).entries
    simp only [Function.comp_apply, hsame, id_eq]

/-! ### What does not come back -/

/-- A node that comes back as it was has a label and a name, and all its texts
are kept. -/
theorem kept_of_described {graph : Graph} {index : Nat} {node : Node}
    (hnode : graph.nodes[index]? = some node)
    (hlabel : node.attributes.get? labelKey = none)
    (hfaithful : (nodePhrase graph index node).Faithful)
    (hscannable : (nodePhrase graph index node).Has Scannable)
    (hsame : Sketch.Node.described
      ⟨Sketch.keyOf (graph.dotId index), attributesOf node.shownAttributes⟩ =
        node) :
    (node.label ≠ [] ∧ node.name ≠ []) ∧
      Kept node.label ∧ Kept node.name ∧
      EntriesKept node.attributes.entries := by
  let read : Sketch.Node :=
    ⟨Sketch.keyOf (graph.dotId index), attributesOf node.shownAttributes⟩
  have hid : read.label = node.label := congrArg Node.label hsame
  have hname : read.name = node.name := congrArg Node.name hsame
  have hothers : read.others = node.attributes := congrArg Node.attributes hsame
  have hattributes : read.attributes = attributesOf node.shownAttributes := rfl
  have hnonempty : node.label ≠ [] := by
    intro hempty
    -- the identifier would have been generated, and would have come back
    have hgenerated := Graph.generated_dotId hnode hempty
    have hrestored : read.label = graph.dotId index :=
      hgenerated.kept.restored hgenerated.faithful
    exact hgenerated.ne_nil (by rw [← hrestored, hid, hempty])
  obtain ⟨hnamed, hentries⟩ :=
    entriesKept_of_node hlabel hfaithful.entries hscannable.entries
      hattributes (hid ▸ hnonempty) hname hothers
  have hlabelKept : Kept node.label := by
    have hdotId := Graph.dotId_of_label hnode hnonempty
    have hrestored : unescape (recovered (graph.dotId index)) = node.label :=
      hid
    rw [hdotId] at hrestored
    exact kept_of_restored (hdotId ▸ hfaithful.ids _ List.mem_cons_self)
      (hdotId ▸ hscannable.ids _ List.mem_cons_self) hrestored
  rw [shownAttributes_of_ne hnamed] at hentries
  exact ⟨⟨hnonempty, hnamed⟩, hlabelKept, (hentries _ List.mem_cons_self).2,
    fun entry hmem => hentries entry (List.mem_cons_of_mem _ hmem)⟩

/-- A graph that repeats another, with the edges in the order of the text. -/
structure Repeats (copy graph : Graph) : Prop where
  title : copy.title = graph.title
  attributes : copy.attributes = graph.attributes
  nodes : copy.nodes = graph.nodes
  edges : copy.edges = sortedEdges graph.edges

/-- A copy that repeats a graph is written as the graph is. -/
theorem Repeats.toDot_eq {copy graph : Graph} (hrepeats : Repeats copy graph) :
    copy.toDot = graph.toDot := by
  have hedges : sortedEdges copy.edges = sortedEdges graph.edges := by
    rw [hrepeats.edges, sortedEdges_sortedEdges]
  have hshown := congrArg (List.map Node.shownAttributes) hrepeats.nodes
  exact toDot_congr hrepeats.title hrepeats.attributes
    (Graph.dotId_congr hrepeats.nodes) hshown hedges

/-- If attributes come back as they were, all their texts are kept. -/
theorem entriesKept_of_plain {attributes : Attributes}
    (hfaithful : EntriesFaithful attributes.entries)
    (hscannable : EntriesHave Scannable attributes.entries)
    (hsame : Sketch.plain (attributesOf attributes.entries) = attributes) :
    EntriesKept attributes.entries :=
  entriesKept_of_weight hfaithful hscannable attributes.sorted.nodup_keys
    (Nat.le_of_eq (by rw [hsame]))

/-- A copy with as many nodes was read from what the text of the graph
describes. -/
theorem toGraph_sketchOf {ident : Nat} {graph copy : Graph}
    (hfaithful : NamesHave Faithful graph)
    (hcopy : readGraph ident graph.toDot = .ok copy)
    (hlength : copy.nodes.length = graph.nodes.length) :
    NamesHave Scannable graph ∧
      (Sketch.sketchOf graph).toGraph ident = .ok copy := by
  obtain ⟨hscannable, hgraph⟩ := (readGraph_toDot_eq_ok_iff hfaithful).mp hcopy
  have hkeys : (Sketch.dotKeys graph).Nodup := by
    apply Sketch.nodup_dotKeys
    rw [← hlength, (Sketch.toGraph_eq_ok hgraph).2.2, List.length_map]
  rw [Sketch.ofGraph_documentOf hkeys] at hgraph
  exact ⟨hscannable, hgraph⟩

/-- Only graphs whose texts are kept are repeated by what is read back. -/
theorem kept_of_repeats {ident : Nat} {graph copy : Graph}
    (hlabel : ∀ node ∈ graph.nodes, node.attributes.get? labelKey = none)
    (hfaithful : NamesHave Faithful graph)
    (hcopy : readGraph ident graph.toDot = .ok copy)
    (hrepeats : Repeats copy graph) :
    (∀ node ∈ graph.nodes, node.label ≠ [] ∧ node.name ≠ []) ∧
      ∀ text ∈ graph.texts, Kept text := by
  obtain ⟨hscannable, hgraph⟩ :=
    toGraph_sketchOf hfaithful hcopy (congrArg List.length hrepeats.nodes)
  obtain ⟨htitle, hattributes, hnodes⟩ := Sketch.toGraph_eq_ok hgraph
  have hedges := Sketch.toGraph_edges (linesWithin_sketchOf graph) hgraph
  rw [hrepeats.title] at htitle
  rw [hrepeats.attributes] at hattributes
  rw [hrepeats.nodes, Sketch.sketchOf, Sketch.map_mapIdx] at hnodes
  rw [hrepeats.edges, Sketch.sketchOf, List.map_map] at hedges
  have hnode : ∀ node ∈ graph.nodes, (node.label ≠ [] ∧ node.name ≠ []) ∧
      Kept node.label ∧ Kept node.name ∧
      EntriesKept node.attributes.entries := by
    intro node hmem
    obtain ⟨index, hindex⟩ := List.mem_iff_getElem?.mp hmem
    have hphrase := nodePhrase_mem hindex
    have hsame := congrArg (fun nodes => nodes[index]?) hnodes
    simp only [List.getElem?_mapIdx, hindex, Option.map_some,
      Option.some.injEq] at hsame
    exact kept_of_described hindex (hlabel node hmem)
      (hfaithful.phrases _ hphrase) (hscannable.phrases _ hphrase) hsame.symm
  have hedge : ∀ edge ∈ graph.edges, EntriesKept edge.attributes.entries := by
    intro edge hmem
    have hphrase := edgePhrase_mem hmem
    have hsorted := (mem_sortedEdges_iff graph.edges edge).mpr hmem
    have hsame :=
      List.map_inj_left.mp ((List.map_id _).trans hedges) edge hsorted
    exact entriesKept_of_plain (hfaithful.phrases _ hphrase).entries
      (hscannable.phrases _ hphrase).entries
        (congrArg Edge.attributes hsame).symm
  have htitleKept :=
    kept_of_restored hfaithful.title hscannable.title htitle.symm
  have hattributesKept :=
    entriesKept_of_plain hfaithful.attributes hscannable.attributes
      hattributes.symm
  refine ⟨fun node hmem => (hnode node hmem).1,
    (graph.forall_mem_texts Kept).mpr ?_⟩
  exact ⟨htitleKept, hattributesKept, fun node hmem => (hnode node hmem).2,
    hedge⟩

/-! ### The round trip -/

theorem nodup_dotIds {graph : Graph}
    (hlabels : ∀ node ∈ graph.nodes, node.label ≠ []) :
    (dotIds graph).Nodup := by
  have hids : dotIds graph = graph.nodes.map Node.label := by
    apply List.ext_getElem?
    intro index
    rw [dotIds, List.getElem?_mapIdx, List.getElem?_map]
    cases hnode : graph.nodes[index]? with
    | none => rfl
    | some node =>
        have hlabel := hlabels node (List.mem_of_getElem? hnode)
        rw [Option.map_some, Option.map_some, Graph.dotId_of_label hnode hlabel]
  rw [hids, List.Nodup, List.pairwise_map]
  refine graph.labels_distinct.imp_of_mem fun hleft _ hdistinct heq => ?_
  exact hlabels _ hleft (hdistinct heq)

theorem returned_eq_self {graph : Graph}
    (hlabels : ∀ node ∈ graph.nodes, node.label ≠ [])
    (hnames : ∀ node ∈ graph.nodes, node.name ≠ []) :
    graph.nodes.mapIdx (returned graph) = graph.nodes := by
  apply List.ext_getElem?
  intro index
  rw [List.getElem?_mapIdx]
  cases hnode : graph.nodes[index]? with
  | none => rfl
  | some node =>
      have hmem := List.mem_of_getElem? hnode
      rw [Option.map_some, returned, if_neg (hnames node hmem),
        Graph.dotId_of_label hnode (hlabels node hmem)]

theorem exists_of_readGraph (ident : Nat) (source : Text)
    (property : Graph → Prop) [DecidablePred property]
    (hany :
      ((readGraph ident source).toOption.any fun graph =>
        decide (property graph)) = true) :
    ∃ graph, readGraph ident source = .ok graph ∧ property graph :=
  exists_ok_of_any (readGraph ident source) property hany

/-- A graph that was read from a text can be written and read again, and then
repeats itself and is written the same, exactly if each of its nodes has a label
and a name and each of its texts is one that writing and reading keep.  The
writer is taken at its word: a text that it leaves unquoted is an identifier. -/
theorem readGraph_toDot_repeats_iff {ident again : Nat} {source : Text}
    {graph : Graph} (hread : readGraph ident source = .ok graph)
    (hfaithful : ∀ text ∈ graph.texts, Faithful text) :
    (∃ copy, readGraph again graph.toDot = .ok copy ∧ Repeats copy graph ∧
        copy.toDot = graph.toDot) ↔
      (∀ node ∈ graph.nodes, node.label ≠ [] ∧ node.name ≠ []) ∧
        ∀ text ∈ graph.texts, Kept text := by
  have hlabel := get?_labelKey_of_readGraph hread
  have hnames := namesFaithful hfaithful
  constructor
  · rintro ⟨copy, hcopy, hrepeats, -⟩
    exact kept_of_repeats hlabel hnames hcopy hrepeats
  · rintro ⟨hnodes, hkept⟩
    have hlabels : ∀ node ∈ graph.nodes, node.label ≠ [] :=
      fun node hmem => (hnodes node hmem).1
    have hkeptNames : NamesHave Kept graph :=
      namesHave_of_texts kept_labelKey (fun _ hgenerated => hgenerated.kept)
        hkept
    obtain ⟨copy, hcopy, htitle, hattributes, hcopied, hedges⟩ :=
      exists_readGraph_toDot again hlabel (nodup_dotIds hlabels) hnames
        hkeptNames
    rw [returned_eq_self hlabels fun node hmem =>
      (hnodes node hmem).2] at hcopied
    have hrepeats : Repeats copy graph := ⟨htitle, hattributes, hcopied, hedges⟩
    exact ⟨copy, hcopy, hrepeats, hrepeats.toDot_eq⟩

/-- A title and a name with quotes, attributes of all three kinds, and edges out
of order. -/
def quotedSource : Text :=
  Text.ofString "digraph \"my graph\" \x7bgraph [rankdir=LR]
    a [label=\"the \\\"end\\\"\" color=red] b a -> a b -> a [weight=2] a -> b\x7d"

theorem readGraph_toDot_repeats_quotedSource :
    ∃ graph,
      readGraph 0 quotedSource = .ok graph ∧
        (∀ text ∈ graph.texts, Faithful text) ∧
        ∃ copy, readGraph 1 graph.toDot = .ok copy ∧ Repeats copy graph ∧
          copy.toDot = graph.toDot := by
  obtain ⟨graph, hread, hfaithful, hkept⟩ := exists_of_readGraph 0 quotedSource
    (fun graph => (∀ text ∈ graph.texts, Faithful text) ∧
      (∀ node ∈ graph.nodes, node.label ≠ [] ∧ node.name ≠ []) ∧
      ∀ text ∈ graph.texts, Kept text)
    (by decide +kernel)
  exact ⟨graph, hread, hfaithful,
    (readGraph_toDot_repeats_iff hread hfaithful).mpr hkept⟩

def unnamedSource : Text := Text.ofString "digraph \x7ba [label=\"\"]\x7d"

/-- The identifier comes back as the name. -/
theorem not_repeats_unnamedSource :
    ∃ graph,
      readGraph 0 unnamedSource = .ok graph ∧
        (∀ text ∈ graph.texts, Faithful text) ∧
        ¬∃ copy, readGraph 1 graph.toDot = .ok copy ∧ Repeats copy graph ∧
          copy.toDot = graph.toDot := by
  obtain ⟨graph, hread, hfaithful, hnodes⟩ :=
    exists_of_readGraph 0 unnamedSource
      (fun graph => (∀ text ∈ graph.texts, Faithful text) ∧
        (readGraph 1 graph.toDot).toOption.map Graph.nodes ≠ some graph.nodes)
      (by decide +kernel)
  refine ⟨graph, hread, hfaithful, ?_⟩
  rintro ⟨copy, hcopy, hrepeats, -⟩
  rw [hcopy] at hnodes
  exact hnodes (congrArg some hrepeats.nodes)

end Dot

end GenKill
