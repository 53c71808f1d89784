import GenKill.Proofs.Dot.Listing
import GenKill.Proofs.Dot.Plain

/-!
# What comes back of single attributes

A name is a letter with letters and digits after it.  Under a key that is a name
the value comes back by itself, restored as far as it is kept, whatever other
attributes there are: keys that lose their quotes come first in the text, and
are overwritten.
-/

namespace GenKill.Dot

namespace Identifier

/-! ### Names -/

def isLetterByte (byte : UInt8) : Bool :=
  decide (65 ≤ byte ∧ byte ≤ 90 ∨ 97 ≤ byte ∧ byte ≤ 122)

/-- A letter, and letters and digits after it. -/
def isName : Text → Bool
  | [] => false
  | first :: rest =>
      isLetterByte first && rest.all fun byte =>
        isLetterByte byte || isDigitByte byte

/-- The bytes of a name are printable characters, and neither quotes nor
backslashes. -/
theorem exists_chars_of_all_name {text : Text}
    (hall : ∀ byte ∈ text, (isLetterByte byte || isDigitByte byte) = true) :
    ∃ characters : List Char,
      text = Text.ofChars characters ∧ ∀ character ∈ characters,
        isPrintable character = true ∧ character ≠ '\\' ∧
          character ≠ Scanning.replacement := by
  have hnumbers : ∀ number < 123,
      48 ≤ number ∧ number ≤ 57 ∨ 65 ≤ number ∧ number ≤ 90 ∨
        97 ≤ number ∧ number ≤ 122 → isPrintable (Char.ofNat number) = true ∧
          Char.ofNat number ≠ '\\' ∧
          Char.ofNat number ≠ Scanning.replacement := by
    decide +kernel
  induction text with
  | nil => exact ⟨[], rfl, by simp⟩
  | cons byte text ih =>
      obtain ⟨hbyte, htext⟩ := List.forall_mem_cons.mp hall
      obtain ⟨characters, rfl, hcharacters⟩ := ih htext
      simp only [isLetterByte, isDigitByte, Bool.or_eq_true, decide_eq_true_eq,
        UInt8.le_iff_toNat_le, UInt8.reduceToNat] at hbyte
      have hcharacter := hnumbers byte.toNat (by omega) (by omega)
      refine ⟨Char.ofNat byte.toNat :: characters, ?_,
        List.forall_mem_cons.mpr ⟨hcharacter, hcharacters⟩⟩
      rw [Text.ofChars_cons, Text.utf8EncodeChar_ofNat (by omega)]
      rfl

/-- A name starts with a letter. -/
theorem exists_of_isName {text : Text} (hname : isName text = true) :
    ∃ first rest, text = first :: rest ∧ 65 ≤ first.toNat ∧
      ∀ byte ∈ text, (isLetterByte byte || isDigitByte byte) = true := by
  cases text with
  | nil => cases hname
  | cons first rest =>
      rw [isName, Bool.and_eq_true, List.all_eq_true] at hname
      obtain ⟨hfirst, hrest⟩ := hname
      refine ⟨first, rest, rfl, ?_,
        List.forall_mem_cons.mpr ⟨by simp [hfirst], hrest⟩⟩
      simp only [isLetterByte, decide_eq_true_eq, UInt8.le_iff_toNat_le,
        UInt8.reduceToNat] at hfirst
      omega

theorem not_prefix_of_isName {text : Text} (hname : isName text = true)
    {byte : UInt8} (hbyte : byte.toNat < 65) : ¬[byte] <+: text := by
  obtain ⟨first, rest, rfl, hfirst, -⟩ := exists_of_isName hname
  rw [List.cons_prefix_cons]
  rintro ⟨rfl, -⟩
  omega

theorem plain_of_isName {text : Text} (hname : isName text = true) :
    Plain text := by
  obtain ⟨-, -, -, -, hall⟩ := exists_of_isName hname
  obtain ⟨characters, htext, hcharacters⟩ := exists_chars_of_all_name hall
  refine ⟨?_, ?_, ?_, ?_⟩
  · rw [htext, Text.isUtf8, Text.glyphs_ofChars]
    simp
  · rw [htext, Text.shown_ofChars]
    exact hcharacters
  · rintro ⟨-, hquote, -⟩
    exact not_prefix_of_isName hname (by decide) hquote
  · rintro ⟨hless, -⟩
    exact not_prefix_of_isName hname (by decide) hless

theorem quote_not_mem_of_isName {text : Text} (hname : isName text = true) :
    34 ∉ text := by
  obtain ⟨-, -, -, -, hall⟩ := exists_of_isName hname
  intro hmem
  exact absurd (hall 34 hmem) (by decide)

/-! ### Values under names -/

theorem recovered_of_isName {text : Text} (hname : isName text = true) :
    recovered text = text :=
  (plain_of_isName hname).kept.recovered_eq (plain_of_isName hname).faithful

theorem restored_of_isName {text : Text} (hname : isName text = true) :
    restored text = text :=
  (plain_of_isName hname).kept.restored (plain_of_isName hname).faithful

/-- A key that turns into a name comes before it. -/
theorem recovered_ne_of_before {key other : Text} (hname : isName key = true)
    (hfaithful : Faithful other) (hbefore : Key.before key other = true) :
    recovered other ≠ key := by
  intro hrecovered
  by_cases hquote : [34] <+: other
  · obtain ⟨first, rest, rfl, hfirst, -⟩ := exists_of_isName hname
    obtain ⟨more, rfl⟩ := hquote
    have hne : first ≠ 34 := by
      rintro rfl
      exact absurd hfirst (by decide)
    have hlt : first < 34 := by
      change Text.before (first :: rest) (34 :: more) = true at hbefore
      rw [Text.before, if_neg hne] at hbefore
      exact of_decide_eq_true hbefore
    have hlt : first.toNat < 34 := hlt
    omega
  · rw [recovered_eq_self hfaithful fun _ hstart =>
      absurd hstart hquote] at hrecovered
    rw [hrecovered, Key.before_irrefl] at hbefore
    cases hbefore

end Identifier

open GenKill.Dot.Identifier

/-- A value under a name is still there after reading, as far as it can be
recovered. -/
theorem get?_attributesOf {attributes : Attributes}
    (hfaithful : EntriesFaithful attributes.entries) {key value : Text}
    (hname : isName key = true) (hget : attributes.get? key = some value) :
    (attributesOf attributes.entries).get? key = some (recovered value) := by
  obtain ⟨earlier, later, hentries⟩ :=
    List.append_of_mem ((Table.mem_entries_iff attributes key value).mpr hget)
  have hsorted := attributes.sorted
  rw [hentries, Entries.Sorted, List.pairwise_append] at hsorted
  have hlater := (List.pairwise_cons.mp hsorted.2.1).1
  rw [attributesOf, hentries, List.map_append, List.map_cons, recoveredEntry,
    recovered_of_isName hname]
  apply Table.get?_insertAll_of_last
  rw [List.map_map, List.mem_map]
  rintro ⟨entry, hentry, heq⟩
  have hmem : entry ∈ attributes.entries := by
    rw [hentries]
    exact List.mem_append_right _ (List.mem_cons_of_mem _ hentry)
  exact recovered_ne_of_before hname (hfaithful entry hmem).1
    (hlater entry hentry) heq

/-- The value of an attribute whose key is a name comes back restored. -/
theorem get?_plain_attributesOf {attributes : Attributes}
    (hfaithful : EntriesFaithful attributes.entries) {key value : Text}
    (hname : isName key = true) (hget : attributes.get? key = some value) :
    (Sketch.plain (attributesOf attributes.entries)).get? key =
      some (restored value) := by
  rw [get?_plain _ (quote_not_mem_of_isName hname),
    get?_attributesOf hfaithful hname hget]
  rfl

/-! ### Graphs of named nodes -/

theorem get?_attributesOf_of_names {entries : List (Text × Text)}
    (hnames : ∀ entry ∈ entries, isName entry.1 = true)
    (hnodup : (entries.map Prod.fst).Nodup) (key : Text) :
    (attributesOf entries).get? key =
      (Entries.get? key entries).map recovered := by
  have hkeys : (entries.map recoveredEntry).map Prod.fst =
      entries.map Prod.fst := by
    rw [List.map_map]
    exact List.map_congr_left fun entry hmem =>
      recovered_of_isName (hnames entry hmem)
  have hget := Table.get?_insertAll (hkeys ▸ hnodup) Table.empty key
  rw [Table.get?_empty, Option.or_none] at hget
  refine hget.trans ?_
  clear hget hkeys hnodup
  induction entries with
  | nil => rfl
  | cons entry entries ih =>
      obtain ⟨hentry, hrest⟩ := List.forall_mem_cons.mp hnames
      rw [List.map_cons, recoveredEntry, recovered_of_isName hentry,
        Entries.get?, Entries.get?, ih hrest]
      split <;> rfl

/-- A node with a name and a label, whose attributes have names for keys. -/
structure Named (node : Node) : Prop where
  label : isName node.label = true
  name : isName node.name = true
  keys : ∀ entry ∈ node.attributes.entries, isName entry.1 = true
  unlabeled : node.attributes.get? labelKey = none

theorem named_of_empty {node : Node} (hlabel : isName node.label = true)
    (hname : isName node.name = true) (hempty : node.attributes = .empty) :
    Named node where
  label := hlabel
  name := hname
  keys := by
    rw [hempty]
    exact fun _ hmem => absurd hmem List.not_mem_nil
  unlabeled := by rw [hempty, Table.get?_empty]

/-- A node that comes back with its label and name, and with its values as far
as they are kept. -/
structure Twin (twin node : Node) : Prop where
  label : twin.label = node.label
  name : twin.name = node.name
  attributes : ∀ key, isName key = true →
    twin.attributes.get? key = (node.attributes.get? key).map restored

theorem isName_labelKey : isName labelKey = true := by
  decide

theorem ne_nil_of_isName {text : Text} (hname : isName text = true) :
    text ≠ [] := by
  rintro rfl
  cases hname

/-- A node with names only comes back with the same name and label. -/
theorem Named.twin {node : Node} (hnamed : Named node) {graph : Graph}
    {index : Nat} (hnode : graph.nodes[index]? = some node) :
    Twin (Sketch.Node.described
      ⟨Sketch.keyOf (graph.dotId index), attributesOf node.shownAttributes⟩)
      node := by
  have hnonempty := ne_nil_of_isName hnamed.name
  have hshown := shownAttributes_of_ne hnonempty
  have hnames : ∀ entry ∈ node.shownAttributes, isName entry.1 = true := by
    rw [hshown]
    exact List.forall_mem_cons.mpr ⟨isName_labelKey, hnamed.keys⟩
  have hget :=
    get?_attributesOf_of_names hnames (nodup_shownAttributes hnamed.unlabeled)
  refine ⟨?_, ?_, fun key hkey => ?_⟩
  · have hid := Graph.dotId_of_label hnode (ne_nil_of_isName hnamed.label)
    change restored (graph.dotId index) = node.label
    rw [hid, restored_of_isName hnamed.label]
  · have hlabel := hget labelKey
    rw [hshown, Entries.get?, if_pos rfl, Option.map_some] at hlabel
    rw [hshown]
    exact (name_of_some hlabel).trans (restored_of_isName hnamed.name)
  · change ((Sketch.plain (attributesOf node.shownAttributes)).erase
      labelKey).get? key = _
    rw [Table.get?_erase]
    by_cases heq : key = labelKey
    · rw [if_pos heq, heq, hnamed.unlabeled, Option.map_none]
    · rw [if_neg heq, get?_plain _ (quote_not_mem_of_isName hkey), hget, hshown,
        Entries.get?, if_neg (Ne.symm heq), Option.map_map]
      rfl

/-- A graph that comes back with its title, its nodes and the ends of its edges,
and with its values as far as they are kept. -/
structure Returns (copy graph : Graph) : Prop where
  title : copy.title = graph.title
  attributes : ∀ key value, isName key = true →
    graph.attributes.get? key = some value →
    copy.attributes.get? key = some (restored value)
  size : copy.size = graph.size
  nodes : ∀ (index : Nat) (node : Node), graph.nodes[index]? = some node →
    ∃ twin : Node, copy.nodes[index]? = some twin ∧ Twin twin node
  edges : ∀ source target,
    (∃ edge ∈ copy.edges, edge.source = source ∧ edge.target = target) ↔
      ∃ edge ∈ graph.edges, edge.source = source ∧ edge.target = target

theorem Returns.exists_origin {copy graph : Graph}
    (hreturns : Returns copy graph) {index : Nat} {twin : Node}
    (htwin : copy.nodes[index]? = some twin) :
    ∃ node : Node, graph.nodes[index]? = some node ∧ Twin twin node := by
  have hindex : index < graph.size := by
    rw [← hreturns.size]
    exact (List.getElem?_eq_some_iff.mp htwin).1
  obtain ⟨other, hother, hsame⟩ :=
    hreturns.nodes index _ (List.getElem?_eq_getElem hindex)
  rw [htwin] at hother
  cases hother
  exact ⟨_, List.getElem?_eq_getElem hindex, hsame⟩

/-- The graph of a sketch returns the graph that was written. -/
theorem returns_of_toGraph {ident : Nat} {graph copy : Graph}
    (htitle : isName graph.title = true)
    (hnamed : ∀ node ∈ graph.nodes, Named node)
    (hfaithful : NamesHave Faithful graph)
    (hgraph : (Sketch.sketchOf graph).toGraph ident = .ok copy) :
    Returns copy graph := by
  obtain ⟨htitles, hattributes, hnodes⟩ := Sketch.toGraph_eq_ok hgraph
  have hedges := Sketch.toGraph_edges (linesWithin_sketchOf graph) hgraph
  refine ⟨?_, ?_, ?_, ?_, ?_⟩
  · exact htitles.trans (restored_of_isName htitle)
  · intro key value hkey hget
    rw [hattributes]
    exact get?_plain_attributesOf hfaithful.attributes hkey hget
  · rw [Graph.size, Graph.size, hnodes, List.length_map, Sketch.sketchOf,
      List.length_mapIdx]
  · intro index node hnode
    refine ⟨_, ?_, (hnamed node (List.mem_of_getElem? hnode)).twin hnode⟩
    rw [hnodes, Sketch.sketchOf, List.getElem?_map, List.getElem?_mapIdx, hnode]
    rfl
  · intro source target
    rw [hedges, Sketch.sketchOf]
    simp only [List.mem_map, exists_exists_and_eq_and, mem_sortedEdges_iff]

theorem texts_of_namesHave {graph : Graph} {property : Text → Prop}
    (hnamed : ∀ node ∈ graph.nodes, Named node)
    (hnames : NamesHave property graph) :
    ∀ text ∈ graph.texts, property text := by
  refine (graph.forall_mem_texts property).mpr
    ⟨hnames.title, hnames.attributes, ?_, ?_⟩
  · intro node hmem
    obtain ⟨index, hnode⟩ := List.mem_iff_getElem?.mp hmem
    have hphrase := hnames.phrases _ (nodePhrase_mem hnode)
    have hentries := hphrase.entries
    have hid := hphrase.ids _ List.mem_cons_self
    rw [Graph.dotId_of_label hnode
      (ne_nil_of_isName (hnamed node hmem).label)] at hid
    change EntriesHave property node.shownAttributes at hentries
    rw [shownAttributes_of_ne
      (ne_nil_of_isName (hnamed node hmem).name)] at hentries
    exact ⟨hid, (hentries _ List.mem_cons_self).2,
      fun entry hentry => hentries entry (List.mem_cons_of_mem _ hentry)⟩
  · intro edge hmem
    exact (hnames.phrases _ (edgePhrase_mem hmem)).entries

section Reading

variable {graph : Graph} (hnamed : ∀ node ∈ graph.nodes, Named node)
  (hfaithful : ∀ text ∈ graph.texts, Faithful text)

include hnamed hfaithful

/-- A text that can be read has only texts in it that can be scanned. -/
theorem scannable_of_readGraph {ident : Nat} {copy : Graph}
    (hread : readGraph ident graph.toDot = .ok copy) :
    ∀ text ∈ graph.texts, Scannable text :=
  texts_of_namesHave hnamed
    ((readGraph_toDot_eq_ok_iff (namesFaithful hfaithful)).mp hread).1

/-- A graph of named nodes comes back, whatever its values are, if they can be
scanned. -/
theorem exists_returns (ident : Nat) (htitle : isName graph.title = true)
    (hscannable : ∀ text ∈ graph.texts, Scannable text) :
    ∃ copy, readGraph ident graph.toDot = .ok copy ∧ Returns copy graph := by
  have hnames := namesFaithful hfaithful
  have hlabels : ∀ node ∈ graph.nodes, node.label ≠ [] :=
    fun node hmem => ne_nil_of_isName (hnamed node hmem).label
  have hids : ∀ id ∈ dotIds graph, unescape (recovered id) = id := by
    intro id hid
    obtain ⟨index, hindex, rfl⟩ := List.mem_mapIdx.mp hid
    have hmem := List.getElem_mem hindex
    rw [Graph.dotId_of_label (List.getElem?_eq_getElem hindex) (hlabels _ hmem)]
    exact restored_of_isName (hnamed _ hmem).label
  obtain ⟨copy, hcopy, hgraph⟩ :=
    exists_readGraph ident (nodup_dotIds hlabels) hnames
      (namesHave_of_texts kept_labelKey.scannable
        (fun _ hid => hid.kept.scannable) hscannable) hids
  exact ⟨copy, hcopy, returns_of_toGraph htitle hnamed hnames hgraph⟩

end Reading

end GenKill.Dot
