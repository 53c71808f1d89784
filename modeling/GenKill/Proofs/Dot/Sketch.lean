import GenKill.Proofs.Dot.Attributes
import Mathlib.Data.List.Perm.Subperm

/-!
# Drawing the statements of a written graph

The first mention of a node creates it.  A written graph mentions each node once
before any edge, so as long as different nodes are written differently, drawing
rebuilds exactly the nodes and edges that were written (`ofGraph_documentOf`).
Where two are written the same, nodes are lost.
-/

namespace GenKill.Dot.Sketch

def keys (sketch : Sketch) : List Text := sketch.nodes.map Node.key

/-- The written identifier of a node, as the grammar sees it. -/
def keyOf (id : Text) : Text := (placeOf id).id

/-! ### Mentioning a node -/

theorem mention_of_not_mem {sketch : Sketch} {key : Text}
    (hkey : key ∉ sketch.keys) :
    sketch.mention key =
      (sketch.nodes.length,
        { sketch with nodes := sketch.nodes ++ [{ key }] }) := by
  have hnone : (sketch.nodes.findIdx? fun node => node.key = key) = none := by
    rw [List.findIdx?_eq_none_iff]
    intro node hnode
    rw [decide_eq_false_iff_not]
    rintro rfl
    exact hkey (List.mem_map_of_mem hnode)
  rw [mention, hnone]

theorem mention_of_getElem? {sketch : Sketch} (hnodup : sketch.keys.Nodup)
    {key : Text} {index : Nat} (hkey : sketch.keys[index]? = some key) :
    sketch.mention key = (index, sketch) := by
  have hsome : (sketch.nodes.findIdx? fun node => node.key = key) =
      some index := by
    obtain ⟨hindex, rfl⟩ := List.getElem?_eq_some_iff.mp hkey
    have hlt : index < sketch.nodes.length := by simpa [keys] using hindex
    rw [List.findIdx?_eq_some_iff_getElem]
    refine ⟨hlt, by simp [keys], fun earlier hearlier => ?_⟩
    have hne :=
      List.pairwise_iff_getElem.mp hnodup earlier index (by omega) hindex
        hearlier
    simpa [keys] using hne
  rw [mention, hsome]

/-- The written identifiers are distinct and taken from a list. -/
structure KeysWithin (sketch : Sketch) (allowed : List Text) : Prop where
  nodup : sketch.keys.Nodup
  within : ∀ key ∈ sketch.keys, key ∈ allowed

theorem KeysWithin.mention {sketch : Sketch} {allowed : List Text} {key : Text}
    (hkeys : KeysWithin sketch allowed) (hkey : key ∈ allowed) :
    KeysWithin (sketch.mention key).2 allowed := by
  by_cases hmem : key ∈ sketch.keys
  · obtain ⟨index, hindex⟩ := List.mem_iff_getElem?.mp hmem
    rw [mention_of_getElem? hkeys.nodup hindex]
    exact hkeys
  · have hadded : (sketch.mention key).2.keys = sketch.keys ++ [key] := by
      rw [mention_of_not_mem hmem]
      simp [keys]
    refine ⟨?_, ?_⟩
    · rw [hadded, List.nodup_append]
      refine ⟨hkeys.nodup, List.nodup_singleton key,
        fun left hleft right hright heq => ?_⟩
      rw [List.mem_singleton.mp hright] at heq
      exact hmem (heq ▸ hleft)
    · intro other hother
      rw [hadded, List.mem_append, List.mem_singleton] at hother
      rcases hother with hother | rfl
      · exact hkeys.within other hother
      · exact hkey

theorem KeysWithin.of_keys_eq {sketch other : Sketch} {allowed : List Text}
    (hkeys : KeysWithin sketch allowed) (heq : other.keys = sketch.keys) :
    KeysWithin other allowed :=
  ⟨heq ▸ hkeys.nodup, heq ▸ hkeys.within⟩

theorem keys_setNode (sketch : Sketch) (index : Nat) (settings : List Setting) :
    (sketch.setNode index settings).keys = sketch.keys := by
  apply List.ext_getElem?
  intro position
  simp only [keys, setNode, List.getElem?_map, List.getElem?_modify]
  cases sketch.nodes[position]? with
  | none => rfl
  | some node => by_cases hposition : index = position <;> simp [hposition]

/-- Drawing a phrase brings in the nodes it mentions and no others. -/
theorem KeysWithin.draw {sketch : Sketch} {allowed : List Text}
    {phrase : Phrase} (hkeys : KeysWithin sketch allowed)
    (hids : ∀ id ∈ phrase.ids, keyOf id ∈ allowed) :
    KeysWithin (sketch.draw phrase.statement) allowed := by
  cases phrase with
  | attributes entries => exact hkeys.of_keys_eq rfl
  | node id entries =>
      have hmention := hkeys.mention (hids id List.mem_cons_self)
      exact hmention.of_keys_eq (keys_setNode _ _ _)
  | edge source target entries =>
      have hsource := hkeys.mention (hids source List.mem_cons_self)
      have htarget :=
        hsource.mention
          (hids target (List.mem_cons_of_mem _ List.mem_cons_self))
      exact htarget.of_keys_eq rfl

/-- Drawing phrases brings in no keys but theirs. -/
theorem KeysWithin.drawAll {sketch : Sketch} {allowed : List Text}
    {phrases : List Phrase} (hkeys : KeysWithin sketch allowed)
    (hids : ∀ phrase ∈ phrases, ∀ id ∈ phrase.ids, keyOf id ∈ allowed) :
    KeysWithin (sketch.drawAll (phrases.map Phrase.statement)) allowed := by
  induction phrases generalizing sketch with
  | nil => exact hkeys
  | cons phrase phrases ih =>
      have hdrawn := hkeys.draw (hids phrase List.mem_cons_self)
      exact ih hdrawn fun other hmem => hids other (List.mem_cons_of_mem _ hmem)

/-! ### Drawing phrases -/

theorem drawAll_append (sketch : Sketch) (left right : List Statement) :
    sketch.drawAll (left ++ right) = (sketch.drawAll left).drawAll right := by
  induction left generalizing sketch with
  | nil => rfl
  | cons statement left ih => exact ih (sketch.draw statement)

theorem draw_attributes (sketch : Sketch) (entries : List (Text × Text)) :
    sketch.draw (Phrase.attributes entries).statement =
      { sketch with
        attributes :=
          sketch.attributes.insertAll (entries.map recoveredEntry) } := by
  rw [← assign_settingOf]
  rfl

private theorem modify_last {α : Type} (list : List α) (last : α)
    (change : α → α) :
    (list ++ [last]).modify list.length change = list ++ [change last] := by
  induction list with
  | nil => rfl
  | cons head tail ih => rw [List.cons_append, List.length_cons,
    List.modify_succ_cons, ih]; rfl

theorem draw_node {sketch : Sketch} {id : Text} (entries : List (Text × Text))
    (hfresh : keyOf id ∉ sketch.keys) :
    sketch.draw (Phrase.node id entries).statement =
      { sketch with
        nodes := sketch.nodes ++ [⟨keyOf id, attributesOf entries⟩] } := by
  have hdraw : sketch.draw (Phrase.node id entries).statement =
      (sketch.mention (keyOf id)).2.setNode (sketch.mention (keyOf id)).1
        (entries.map settingOf) := rfl
  rw [hdraw, mention_of_not_mem hfresh, setNode]
  simp only [modify_last, assign_settingOf]
  rfl

theorem draw_edge {sketch : Sketch} {source target : Nat} {first second : Text}
    {entries : List (Text × Text)} (hnodup : sketch.keys.Nodup)
    (hfirst : sketch.keys[source]? = some (keyOf first))
    (hsecond : sketch.keys[target]? = some (keyOf second)) :
    sketch.draw (Phrase.edge first second entries).statement =
      { sketch with
        lines :=
          sketch.lines ++ [⟨source, target, attributesOf entries⟩] } := by
  have hdraw : sketch.draw (Phrase.edge first second entries).statement =
      ((sketch.mention (keyOf first)).2.mention (keyOf second)).2.join
        [(sketch.mention (keyOf first)).1]
        [((sketch.mention (keyOf first)).2.mention (keyOf second)).1]
          (entries.map settingOf) := rfl
  rw [hdraw, mention_of_getElem? hnodup hfirst,
    mention_of_getElem? hnodup hsecond, join, assign_settingOf]
  rfl

/-- Nodes that are written differently, and not like any before them, are all
added. -/
theorem drawAll_nodes (sketch : Sketch)
    (written : List (Text × List (Text × Text)))
    (hnodup : (sketch.keys ++ written.map fun entry => keyOf entry.1).Nodup) :
    sketch.drawAll
        ((written.map fun entry => Phrase.node entry.1 entry.2).map
          Phrase.statement) =
      { sketch with
        nodes := sketch.nodes ++
          written.map fun entry => ⟨keyOf entry.1, attributesOf entry.2⟩ } := by
  induction written generalizing sketch with
  | nil => simp [drawAll]
  | cons entry written ih =>
      have hfresh : keyOf entry.1 ∉ sketch.keys := by
        intro hmem
        exact (List.nodup_append.mp hnodup).2.2 _ hmem _ List.mem_cons_self rfl
      have hrest := ih { sketch with
        nodes := sketch.nodes ++ [⟨keyOf entry.1, attributesOf entry.2⟩] } (by
          simpa [keys] using hnodup)
      rw [List.map_cons, List.map_cons, drawAll, draw_node entry.2 hfresh,
        hrest]
      simp

/-- Edges between nodes that exist are added between them. -/
theorem drawAll_edges (sketch : Sketch) (hnodup : sketch.keys.Nodup)
    (ids : Nat → Text) {edges : List Edge}
    (hends : ∀ edge ∈ edges,
      sketch.keys[edge.source]? = some (keyOf (ids edge.source)) ∧
        sketch.keys[edge.target]? = some (keyOf (ids edge.target))) :
    sketch.drawAll
      ((edges.map fun edge => Phrase.edge (ids edge.source) (ids edge.target)
        edge.attributes.entries).map Phrase.statement) =
      { sketch with
        lines := sketch.lines ++ edges.map fun edge => { edge with
          attributes := attributesOf edge.attributes.entries } } := by
  induction edges generalizing sketch with
  | nil => simp [drawAll]
  | cons edge edges ih =>
      obtain ⟨hsource, htarget⟩ := hends edge List.mem_cons_self
      have hrest := ih { sketch with
        lines := sketch.lines ++
          [⟨edge.source, edge.target, attributesOf edge.attributes.entries⟩] }
          hnodup fun other hmem => hends other (List.mem_cons_of_mem _ hmem)
      rw [List.map_cons, List.map_cons, drawAll,
        draw_edge hnodup hsource htarget, hrest]
      simp

/-! ### The sketch of a written graph -/

def dotKeys (graph : Graph) : List Text :=
  graph.nodes.mapIdx fun index _ => keyOf (graph.dotId index)

/-- What the text of a graph describes, as long as its nodes are written
differently. -/
def sketchOf (graph : Graph) : Sketch where
  title := Identifier.recovered graph.title
  attributes := attributesOf graph.attributes.entries
  nodes := graph.nodes.mapIdx fun index node =>
    ⟨keyOf (graph.dotId index), attributesOf node.shownAttributes⟩
  lines := (sortedEdges graph.edges).map fun edge =>
    { edge with attributes := attributesOf edge.attributes.entries }

theorem recovered_title (graph : Graph) :
    Identifier.read (documentOf graph).id =
      Identifier.recovered graph.title := by
  rw [documentOf]
  split
  · rename_i htitle
    have hempty : Identifier.read [] = Identifier.recovered [] := by
      decide +kernel
    rw [htitle, ← hempty]
  · rfl

theorem getElem?_dotKeys {graph : Graph} {index : Nat}
    (hindex : index < graph.nodes.length) :
    (dotKeys graph)[index]? = some (keyOf (graph.dotId index)) := by
  rw [dotKeys, List.getElem?_mapIdx, List.getElem?_eq_getElem hindex]
  rfl

theorem drawAll_attributePhrases (graph : Graph) (title : Text) :
    drawAll { title } ((attributePhrases graph).map Phrase.statement) =
      { title, attributes := attributesOf graph.attributes.entries } := by
  rw [attributePhrases]
  split
  · rename_i hentries
    rw [hentries]
    rfl
  · exact draw_attributes { title } graph.attributes.entries

theorem map_mapIdx {α β γ : Type} (list : List α) (each : Nat → α → β)
    (change : β → γ) :
    (list.mapIdx each).map change = list.mapIdx fun index value =>
      change (each index value) := by
  rw [List.mapIdx_eq_zipIdx_map, List.map_map, List.mapIdx_eq_zipIdx_map]
  rfl

/-- Drawing the document of a graph gives its sketch. -/
theorem ofGraph_documentOf {graph : Graph} (hnodup : (dotKeys graph).Nodup) :
    ofGraph (documentOf graph) = sketchOf graph := by
  let written :=
    graph.nodes.mapIdx fun index node =>
      (graph.dotId index, node.shownAttributes)
  let drawn : Sketch := { sketchOf graph with lines := [] }
  have hkeys : drawn.keys = dotKeys graph := map_mapIdx _ _ _
  have hphrases : graph.nodes.mapIdx (nodePhrase graph) =
      written.map fun entry => Phrase.node entry.1 entry.2 := by
    rw [map_mapIdx]
    rfl
  have hnodes : drawAll
      { title := Identifier.recovered graph.title
        attributes := attributesOf graph.attributes.entries }
      ((graph.nodes.mapIdx (nodePhrase graph)).map Phrase.statement) =
        drawn := by
    have hwritten : written.map (fun entry => keyOf entry.1) = dotKeys graph :=
      map_mapIdx _ _ _
    rw [hphrases, drawAll_nodes _ written (by rw [hwritten]; exact hnodup),
      map_mapIdx]
    rfl
  have hends : ∀ edge ∈ sortedEdges graph.edges,
      drawn.keys[edge.source]? = some (keyOf (graph.dotId edge.source)) ∧
        drawn.keys[edge.target]? = some (keyOf (graph.dotId edge.target)) := by
    intro edge hmem
    have hlt := graph.ends_lt edge ((mem_sortedEdges_iff _ _).mp hmem)
    rw [hkeys]
    exact ⟨getElem?_dotKeys hlt.1, getElem?_dotKeys hlt.2⟩
  have hedges := drawAll_edges drawn (hkeys ▸ hnodup) graph.dotId hends
  rw [ofGraph, recovered_title, documentOf, phrases, List.map_append,
    List.map_append, drawAll_append, drawAll_append, drawAll_attributePhrases,
    hnodes]
  exact hedges

/-- The identifiers in the phrases of a graph are those of its nodes. -/
theorem exists_index_of_mem_ids {graph : Graph} {phrase : Phrase} {id : Text}
    (hphrase : phrase ∈ phrases graph) (hid : id ∈ phrase.ids) :
    ∃ index < graph.nodes.length, id = graph.dotId index := by
  simp only [phrases, List.mem_append, List.mem_mapIdx, List.mem_map] at hphrase
  rcases hphrase with (hattributes | ⟨index, hindex, rfl⟩) | ⟨edge, hmem, rfl⟩
  · rw [attributePhrases] at hattributes
    split at hattributes
    · cases hattributes
    · rw [List.mem_singleton] at hattributes
      rw [hattributes] at hid
      cases hid
  · exact ⟨index, hindex, List.mem_singleton.mp hid⟩
  · have hends := graph.ends_lt edge ((mem_sortedEdges_iff _ _).mp hmem)
    rcases List.mem_cons.mp hid with hsource | htarget
    · exact ⟨edge.source, hends.1, hsource⟩
    · exact ⟨edge.target, hends.2, List.mem_singleton.mp htarget⟩

/-- If drawing loses no node, the nodes are written differently. -/
theorem nodup_dotKeys {graph : Graph}
    (hlength : (ofGraph (documentOf graph)).nodes.length = graph.nodes.length) :
    (dotKeys graph).Nodup := by
  have hempty :
      KeysWithin { title := Identifier.read (documentOf graph).id }
        (dotKeys graph) :=
    ⟨List.nodup_nil, fun key hkey => by cases hkey⟩
  have hdrawn : KeysWithin (ofGraph (documentOf graph)) (dotKeys graph) := by
    apply hempty.drawAll
    intro phrase hphrase id hid
    obtain ⟨index, hindex, rfl⟩ := exists_index_of_mem_ids hphrase hid
    exact List.mem_of_getElem? (getElem?_dotKeys hindex)
  have hsub := List.subperm_of_subset hdrawn.nodup hdrawn.within
  have hlengths : (dotKeys graph).length =
      (ofGraph (documentOf graph)).keys.length := by
    rw [keys, List.length_map, hlength, dotKeys, List.length_mapIdx]
  exact (hsub.perm_of_length_le (Nat.le_of_eq hlengths)).nodup_iff.mp
    hdrawn.nodup

end GenKill.Dot.Sketch
