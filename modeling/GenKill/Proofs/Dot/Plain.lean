import GenKill.Proofs.Dot.Distinct
import GenKill.Proofs.Dot.RoundTrip

/-!
# Graphs made of plain texts

A plain text is printable, and looks neither quoted nor marked up.  Writing
leaves it bare only if it is a word or a numeral, and otherwise escapes nothing
in it but quotes, so it always comes back.  A graph made of plain texts
therefore comes back whole, however it was put together: only labels and names
that it does not have are filled in, and its edges are put in order.
-/

namespace GenKill.Dot

namespace Identifier

/-- A printable text without backslashes that is neither quoted nor marked
up. -/
structure Plain (text : Text) : Prop where
  utf8 : text.isUtf8 = true
  characters : ∀ character ∈ text.shown,
    isPrintable character = true ∧ character ≠ '\\' ∧
      character ≠ Scanning.replacement
  unquoted :
    ¬(2 ≤ text.length ∧ Text.ofString "\"" <+: text ∧
      Text.ofString "\"" <:+ text)
  unmarked : ¬(Text.ofString "<" <+: text ∧ Text.ofString ">" <:+ text)

instance (text : Text) : Decidable (Plain text) :=
  -- one character after the other, and not all that there are
  letI : Decidable (∀ character ∈ text.shown,
      isPrintable character = true ∧ character ≠ '\\' ∧
        character ≠ Scanning.replacement) :=
    List.decidableBAll _ _
  decidable_of_iff
    (text.isUtf8 = true ∧
      (∀ character ∈ text.shown,
        isPrintable character = true ∧ character ≠ '\\' ∧
          character ≠ Scanning.replacement) ∧
      ¬(2 ≤ text.length ∧ Text.ofString "\"" <+: text ∧
        Text.ofString "\"" <:+ text) ∧
      ¬(Text.ofString "<" <+: text ∧ Text.ofString ">" <:+ text))
    ⟨fun ⟨hutf8, hcharacters, hunquoted, hunmarked⟩ =>
        ⟨hutf8, hcharacters, hunquoted, hunmarked⟩,
      fun hplain =>
        ⟨hplain.utf8, hplain.characters, hplain.unquoted, hplain.unmarked⟩⟩

/-- Escapes are ASCII, so quoting brings in no replacement character. -/
theorem replacement_mem_of_spelled {glyphs : List Glyph}
    {characters : List Char} (hspelled : Quoted.Spelled glyphs characters)
    (hmem : Scanning.replacement ∈ characters) :
    .char Scanning.replacement ∈ glyphs := by
  induction hspelled with
  | nil => cases hmem
  | char character hquote hslash hprintable hrest ih =>
      rcases List.mem_cons.mp hmem with heq | hrest
      · rw [heq]
        exact List.mem_cons_self
      · exact List.mem_cons_of_mem _ (ih hrest)
  | escape hescape hrest ih =>
      rw [← List.cons_append, List.mem_append] at hmem
      rcases hmem with hbody | hrest
      · exact absurd hbody (Scanning.replacement_not_mem_escape hescape)
      · exact List.mem_cons_of_mem _ (ih hrest)

theorem scannable_of_not_mem {text : Text}
    (hreplacement : Scanning.replacement ∉ text.shown) : Scannable text := by
  intro hwrite hmem
  obtain ⟨characters, hspelled, hquote⟩ := Text.exists_quote text
  have hne : Scanning.replacement ≠ '"' := by decide
  rw [write_eq_quote hwrite, hquote, Text.shown_ofChars] at hmem
  simp only [List.mem_cons, List.mem_append, hne, List.not_mem_nil, or_false,
    false_or] at hmem
  apply hreplacement
  exact List.mem_map_of_mem (f := Glyph.shown)
    (replacement_mem_of_spelled hspelled hmem)

/-- A plain text that is written as it is is a word or a numeral. -/
theorem Plain.bare {text : Text} (hplain : Plain text)
    (hwrite : write text = text) :
    isKeyword text = false ∧
      (isBareWord text = true ∨ isNumeral text = true) := by
  obtain ⟨hkeyword, hbare⟩ := (write_eq_self_iff text).mp hwrite
  refine ⟨hkeyword, ?_⟩
  simp only [isBare, Bool.or_eq_true, Bool.and_eq_true, decide_eq_true_eq,
    Text.startsWith_iff, Text.endsWith_iff] at hbare
  rcases hbare with ((hword | hnumeral) | hquoted) | hmarkup
  · exact .inl hword
  · exact .inr hnumeral
  · exact absurd ⟨hquoted.1.2, hquoted.1.1⟩ hplain.unquoted
  · exact absurd hmarkup.1 hplain.unmarked

/-- Plain texts are faithful, so they are read as they were written. -/
theorem Plain.faithful {text : Text} (hplain : Plain text) : Faithful text := by
  intro hwrite
  obtain ⟨hkeyword, hword | hnumeral⟩ := hplain.bare hwrite
  · exact isIdentifier_of_isBareWord hword hkeyword
  · exact isIdentifier_of_isNumeral hnumeral

theorem Plain.kept {text : Text} (hplain : Plain text) : Kept text where
  quotes_plain := by
    intro hescape
    have hslash : (92 : UInt8) ∈ Text.ofChars text.shown := by
      rw [Text.ofChars_shown hplain.utf8]
      exact hescape.subset (by decide)
    exact (hplain.characters _ (Text.mem_of_mem_ofChars hslash (by decide))).2.1
      rfl
  unquoted := by
    intro hwrite hstart
    have hbare := ((write_eq_self_iff text).mp hwrite).2
    obtain ⟨hend, hlength, -⟩ := isBare_of_quote hbare hstart
    exact absurd ⟨hlength, hstart, hend⟩ hplain.unquoted
  scannable := by
    apply scannable_of_not_mem
    intro hmem
    exact (hplain.characters _ hmem).2.2 rfl

end Identifier

open GenKill.Dot.Identifier

/-! ### The order of the edges -/

/-- The edges in order of their ends; edges between the same nodes keep their
order. -/
structure InOrder (edges sorted : List Edge) : Prop where
  perm : sorted.Perm edges
  ordered : sorted.Pairwise fun left right =>
    left.source < right.source ∨
      left.source = right.source ∧ left.target ≤ right.target
  stable : ∀ source target,
    sorted.filter (fun edge => edge.source = source ∧ edge.target = target) =
      edges.filter fun edge => edge.source = source ∧ edge.target = target

/-- The edges of a node are written in their order. -/
theorem inOrder_sortedEdges (edges : List Edge) :
    InOrder edges (sortedEdges edges) := by
  let before (left right : Edge) : Bool :=
    left.source < right.source ||
      left.source = right.source && left.target ≤ right.target
  have htrans : ∀ first second third, before first second = true →
      before second third = true →
      before first third = true := by
    intro first second third
    simp only [before, Bool.or_eq_true, Bool.and_eq_true, decide_eq_true_eq]
    omega
  have htotal : ∀ left right,
      (before left right || before right left) = true := by
    intro left right
    simp only [before, Bool.or_eq_true, Bool.and_eq_true, decide_eq_true_eq]
    omega
  have hperm : (sortedEdges edges).Perm edges :=
    List.mergeSort_perm edges before
  refine ⟨hperm, ?_, fun source target => ?_⟩
  · apply (List.pairwise_mergeSort htrans htotal edges).imp
    intro left right hbefore
    simpa [before] using hbefore
  · let between (edge : Edge) : Bool :=
      edge.source = source ∧ edge.target = target
    -- edges between the same nodes are in order already, so sorting leaves
    -- them a sublist
    have hsame : (edges.filter between).Pairwise fun left right =>
        before left right = true := by
      refine List.pairwise_of_forall_mem_list fun left hleft right hright => ?_
      have hleftEnds := of_decide_eq_true (List.mem_filter.mp hleft).2
      have hrightEnds := of_decide_eq_true (List.mem_filter.mp hright).2
      simp only [before, hleftEnds.1, hleftEnds.2, hrightEnds.1, hrightEnds.2]
      simp
    have hsublist : (edges.filter between).Sublist (sortedEdges edges) :=
      List.sublist_mergeSort htrans htotal hsame List.filter_sublist
    have hfiltered := hsublist.filter between
    simp only [List.filter_filter, Bool.and_self] at hfiltered
    exact (hfiltered.eq_of_length (hperm.filter between).length_eq.symm).symm

/-! ### The round trip -/

/-- The names of nodes in a text are distinct, with and without labels. -/
theorem dotIds_nodup (graph : Graph) : (dotIds graph).Nodup := by
  rw [List.nodup_iff_injective_getElem]
  intro left right heq
  simp only [dotIds, List.getElem_mapIdx] at heq
  have hlength : (dotIds graph).length = graph.nodes.length :=
    List.length_mapIdx
  apply Fin.ext
  exact Graph.dotId_inj (hlength ▸ left.isLt) (hlength ▸ right.isLt) heq

theorem shownAttributes_returned {graph : Graph}
    (hnames : ∀ node ∈ graph.nodes, node.name ≠ []) :
    (graph.nodes.mapIdx (returned graph)).map Node.shownAttributes =
      graph.nodes.map Node.shownAttributes := by
  apply List.ext_getElem?
  intro index
  rw [List.getElem?_map, List.getElem?_map, List.getElem?_mapIdx]
  cases hnode : graph.nodes[index]? with
  | none => rfl
  | some node =>
      have hname := hnames node (List.mem_of_getElem? hnode)
      rw [Option.map_some, Option.map_some, Option.map_some,
        Node.shownAttributes, Node.shownAttributes, returned, if_neg hname]

theorem dotId_returned {graph copy : Graph}
    (hnodes : copy.nodes = graph.nodes.mapIdx (returned graph)) :
    copy.dotId = graph.dotId := by
  funext index
  cases hnode : graph.nodes[index]? with
  | none =>
      have hcopied : copy.nodes[index]? = none := by
        rw [hnodes, List.getElem?_mapIdx, hnode, Option.map_none]
      rw [Graph.dotId, Graph.dotId, hnode, hcopied]
  | some node =>
      have hcopied : copy.nodes[index]? = some (returned graph index node) := by
        rw [hnodes, List.getElem?_mapIdx, hnode, Option.map_some]
      have hindex := (List.getElem?_eq_some_iff.mp hnode).1
      exact Graph.dotId_of_label hcopied (Graph.dotId_ne_nil hindex)

/-- A graph made of plain texts is read from its own text: with its title and
attributes, each node under the identifier it was written under, and its edges
in order of their ends.  A node without a name comes back with its identifier in
that place; if there is none, the text is the same again. -/
theorem readGraph_toDot_of_plain (ident : Nat) (graph : Graph)
    (hplain : ∀ text ∈ graph.texts, Plain text)
    (hlabel : ∀ node ∈ graph.nodes,
      node.attributes.get? (Text.ofString "label") = none) :
    ∃ copy, readGraph ident graph.toDot = .ok copy ∧ copy.title = graph.title ∧
      copy.attributes = graph.attributes ∧
      copy.nodes.length = graph.nodes.length ∧
      (∀ index node, graph.nodes[index]? = some node →
        ∃ twin,
          copy.nodes[index]? = some twin ∧ twin.label = graph.dotId index ∧
            twin.name =
              (if node.name = [] then graph.dotId index else node.name) ∧
            twin.attributes = node.attributes) ∧
      InOrder graph.edges copy.edges ∧
      ((∀ node ∈ graph.nodes, node.name ≠ []) → copy.toDot = graph.toDot) := by
  have hfaithful := namesFaithful fun text hmem => (hplain text hmem).faithful
  have hkept : NamesHave Kept graph := namesHave_of_texts kept_labelKey
    (fun _ hgenerated => hgenerated.kept) fun text hmem =>
      (hplain text hmem).kept
  obtain ⟨copy, hcopy, htitle, hattributes, hnodes, hedges⟩ :=
    exists_readGraph_toDot ident hlabel (dotIds_nodup graph) hfaithful hkept
  refine ⟨copy, hcopy, htitle, hattributes, ?_, ?_, ?_, ?_⟩
  · rw [hnodes, List.length_mapIdx]
  · intro index node hnode
    rw [hnodes, List.getElem?_mapIdx, hnode]
    exact ⟨returned graph index node, rfl, rfl, rfl, rfl⟩
  · rw [hedges]
    exact inOrder_sortedEdges graph.edges
  · intro hnames
    apply toDot_congr htitle hattributes (dotId_returned hnodes)
    · rw [hnodes, shownAttributes_returned hnames]
    · rw [hedges, sortedEdges_sortedEdges]

/-- Nodes with and without labels and names, among them a label that a made-up
identifier has to avoid, a keyword and a numeral; a self-loop and parallel
edges, out of order. -/
def patchwork : Graph where
  ident := 0
  title := "1.5"
  attributes := Table.ofList [("", "say \"hi\"")]
  nodes := [{ name := "", label := "" }, { name := "n0", label := "n0" },
    { name := "x < y", label := "Node"
      attributes := Table.ofList [("gen", "x,y")] }]
  edges := [{ source := 2, target := 0 },
    { source := 0, target := 1, attributes := Table.ofList [("weight", "-2")] },
    { source := 0, target := 0 }, { source := 0, target := 1 }]
  ends_lt := by simp
  labels_distinct := by decide +kernel

theorem readGraph_toDot_patchwork :
    (∀ text ∈ patchwork.texts, Plain text) ∧
      (∀ node ∈ patchwork.nodes,
        node.attributes.get? (Text.ofString "label") = none) ∧
      ∃ copy, readGraph 1 patchwork.toDot = .ok copy ∧ copy.nodes.length = 3 ∧
        InOrder patchwork.edges copy.edges := by
  have hplain : ∀ text ∈ patchwork.texts, Plain text := by decide +kernel
  have hlabel : ∀ node ∈ patchwork.nodes,
      node.attributes.get? (Text.ofString "label") = none := by
    decide +kernel
  obtain ⟨copy, hcopy, -, -, hlength, -, hedges, -⟩ :=
    readGraph_toDot_of_plain 1 patchwork hplain hlabel
  exact ⟨hplain, hlabel, copy, hcopy, hlength, hedges⟩

end GenKill.Dot
