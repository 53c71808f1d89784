import GenKill.Proofs.Dot.Sketch

/-!
# The names in a written graph

A node is written under its label.  A node without one gets an identifier made
up of a letter, digits and underscores, which every reader gives back unchanged;
all other names of a written graph are texts of the graph itself.
-/

namespace GenKill

namespace Dot

open GenKill.Dot.Identifier

/-! ### Generated identifiers -/

/-- `n`, a digit, and further digits or underscores. -/
def Generated (text : Text) : Prop :=
  ∃ digit rest,
    text = Text.ofChars ('n' :: digit :: rest) ∧ Scanning.isDigit digit = true ∧
      ∀ character ∈ rest, Scanning.isDigit character = true ∨ character = '_'

theorem exists_digits_ofNat (number : Nat) :
    ∃ first rest, Text.ofNat number = Text.ofChars (first :: rest) ∧
      ∀ character ∈ first :: rest, Scanning.isDigit character = true := by
  have hdigit : ∀ value < 10,
      ([48 + value.toUInt8] : Text) = Text.ofChars [Char.ofNat (48 + value)] ∧
        Scanning.isDigit (Char.ofNat (48 + value)) = true := by
    decide
  fun_induction Text.ofNat number with
  | case1 number hsmall =>
      obtain ⟨hbytes, hisDigit⟩ := hdigit number hsmall
      exact ⟨_, [], hbytes, by simpa using hisDigit⟩
  | case2 number hlarge ih =>
      obtain ⟨first, rest, htext, hall⟩ := ih
      obtain ⟨hbytes, hisDigit⟩ :=
        hdigit (number % 10) (Nat.mod_lt _ (by decide))
      refine ⟨first, rest ++ [Char.ofNat (48 + number % 10)], ?_, ?_⟩
      · rw [htext, hbytes, ← Text.ofChars_append]
        rfl
      · rw [← List.cons_append, List.forall_mem_append]
        exact ⟨hall, by simpa using hisDigit⟩

theorem generated_ofNat (number : Nat) :
    Generated (Text.ofString "n" ++ Text.ofNat number) := by
  obtain ⟨first, rest, htext, hall⟩ := exists_digits_ofNat number
  refine ⟨first, rest, ?_, hall first List.mem_cons_self, fun character hmem =>
    .inl (hall character (List.mem_cons_of_mem _ hmem))⟩
  rw [htext]
  rfl

theorem Generated.append_underscore {text : Text}
    (hgenerated : Generated text) : Generated (text ++ Text.ofString "_") := by
  obtain ⟨digit, rest, rfl, hdigit, hrest⟩ := hgenerated
  refine ⟨digit, rest ++ ['_'], ?_, hdigit, ?_⟩
  · rw [Text.ofString_eq_ofChars, ← Text.ofChars_append]
    rfl
  · rw [List.forall_mem_append]
    exact ⟨hrest, fun character hmem => .inr (List.mem_singleton.mp hmem)⟩

theorem generated_firstFree (graph : Graph) (tries : Nat) {id : Text}
    (hid : Generated id) : Generated (graph.firstFree tries id) := by
  induction tries generalizing id with
  | zero => exact hid
  | succ tries ih =>
      rw [Graph.firstFree]
      split
      · exact ih hid.append_underscore
      · exact hid

theorem Generated.ne_nil {text : Text} (hgenerated : Generated text) :
    text ≠ [] := by
  obtain ⟨digit, rest, rfl, -, -⟩ := hgenerated
  simp [Text.ofChars_cons]

theorem folded_of_isDigit {character : Char}
    (hdigit : Scanning.isDigit character = true) :
    folded character = character := by
  rw [Scanning.isDigit, decide_eq_true_eq] at hdigit
  have hhigh : character.toNat ≤ 57 := hdigit.2
  have hupper : ¬('A' ≤ character ∧ character ≤ 'Z') := by
    rintro ⟨hlow, -⟩
    have : 65 ≤ character.toNat := hlow
    omega
  rw [folded, if_neg hupper, if_neg (by omega), if_neg (by omega)]

/-- No keyword of the language is an `n` with digits behind it. -/
theorem Generated.isKeyword_eq {text : Text} (hgenerated : Generated text) :
    isKeyword text = false := by
  obtain ⟨digit, rest, rfl, hdigit, -⟩ := hgenerated
  have hletter : digit ≠ 'o' := by
    rintro rfl
    exact absurd hdigit (by decide)
  have hfirst : folded 'n' = 'n' := by decide
  rw [isKeyword, Text.shown_ofChars, List.map_cons, List.map_cons, hfirst,
    folded_of_isDigit hdigit]
  simp [hletter]

/-- A generated identifier needs no quotes. -/
theorem Generated.isBareWord_eq {text : Text} (hgenerated : Generated text) :
    isBareWord text = true := by
  obtain ⟨digit, rest, rfl, hdigit, hrest⟩ := hgenerated
  have hall : ∀ character ∈ digit :: rest,
      (isBareLetter (.char character) || isDigitGlyph (.char character)) =
        true := by
    intro character hmem
    rcases List.mem_cons.mp hmem with rfl | hmem
    · exact Bool.or_eq_true_iff.mpr (.inr hdigit)
    · rcases hrest character hmem with hdigit | rfl
      · exact Bool.or_eq_true_iff.mpr (.inr hdigit)
      · decide
  rw [isBareWord, Text.glyphs_ofChars, List.map_cons]
  have hfirst : isBareLetter (.char 'n') = true := by decide
  simp only [hfirst, Bool.true_and, List.all_map, List.all_eq_true]
  exact hall

theorem Generated.faithful {text : Text} (hgenerated : Generated text) :
    Faithful text :=
  fun _ =>
    isIdentifier_of_isBareWord hgenerated.isBareWord_eq hgenerated.isKeyword_eq

theorem Generated.kept {text : Text} (hgenerated : Generated text) :
    Kept text := by
  have hwrite : write text = text := by
    rw [write_eq_self_iff]
    exact ⟨hgenerated.isKeyword_eq,
      by rw [isBare, hgenerated.isBareWord_eq]; rfl⟩
  obtain ⟨digit, rest, rfl, hdigit, hrest⟩ := hgenerated
  refine ⟨fun hescape => ?_, fun _ hstart => ?_, fun hne => absurd hwrite hne⟩
  · -- a backslash would be one of the characters
    have hbyte : (92 : UInt8) ∈ Text.ofString "\\\"" := by decide
    have hmem : '\\' ∈ 'n' :: digit :: rest :=
      Text.mem_of_mem_ofChars (hescape.subset hbyte) (by decide)
    simp only [List.mem_cons] at hmem
    rcases hmem with heq | rfl | hmem
    · exact absurd heq (by decide)
    · exact absurd hdigit (by decide)
    · rcases hrest _ hmem with hdigit | heq
      · exact absurd hdigit (by decide)
      · exact absurd heq (by decide)
  · rw [Text.ofChars_cons] at hstart
    have hbyte : String.utf8EncodeChar 'n' = [110] := by decide
    rw [hbyte, quote_bytes, List.singleton_append,
      List.cons_prefix_cons] at hstart
    exact absurd hstart.1 (by decide)

end Dot

namespace Graph

open Dot

theorem dotId_of_label {graph : Graph} {index : Nat} {node : Node}
    (hnode : graph.nodes[index]? = some node) (hlabel : node.label ≠ []) :
    graph.dotId index = node.label := by
  rw [dotId, hnode]
  exact if_pos hlabel

/-- A node without a label is named by a generated identifier. -/
theorem generated_dotId {graph : Graph} {index : Nat} {node : Node}
    (hnode : graph.nodes[index]? = some node) (hlabel : node.label = []) :
    Generated (graph.dotId index) := by
  rw [dotId, hnode]
  simp only [hlabel, ne_eq, not_true_eq_false, if_false]
  exact generated_firstFree graph _ (generated_ofNat index)

theorem dotId_ne_nil {graph : Graph} {index : Nat}
    (hindex : index < graph.nodes.length) : graph.dotId index ≠ [] := by
  have hnode := List.getElem?_eq_getElem hindex
  by_cases hlabel : graph.nodes[index].label = []
  · exact (generated_dotId hnode hlabel).ne_nil
  · rwa [dotId_of_label hnode hlabel]

/-- The identifier of a node is its label or a generated one. -/
theorem dotId_cases {graph : Graph} {index : Nat}
    (hindex : index < graph.nodes.length) :
    (∃ node ∈ graph.nodes, graph.dotId index = node.label) ∨
      Generated (graph.dotId index) := by
  have hnode := List.getElem?_eq_getElem hindex
  by_cases hlabel : graph.nodes[index].label = []
  · exact .inr (generated_dotId hnode hlabel)
  · exact .inl ⟨_, List.getElem_mem hindex, dotId_of_label hnode hlabel⟩

/-! ### The texts of a graph -/

def entryTexts (attributes : Attributes) : List Text :=
  attributes.entries.flatMap fun entry => [entry.1, entry.2]

/-- The texts that a graph is made of: its title and the keys and values of its
attributes, the label, name, keys and values of each node, and the keys and
values of each edge. -/
def texts (graph : Graph) : List Text :=
  graph.title :: entryTexts graph.attributes ++
    (graph.nodes.flatMap fun node =>
      node.label :: node.name :: entryTexts node.attributes) ++
    graph.edges.flatMap fun edge => entryTexts edge.attributes

theorem forall_mem_entryTexts (attributes : Attributes)
    (property : Text → Prop) :
    (∀ text ∈ entryTexts attributes, property text) ↔
      EntriesHave property attributes.entries := by
  simp only [entryTexts, List.forall_mem_flatMap, List.forall_mem_cons,
    EntriesHave]
  simp

/-- What holds of all texts of a graph holds of its title, of its labels and
names, and of all keys and values. -/
theorem forall_mem_texts (graph : Graph) (property : Text → Prop) :
    (∀ text ∈ graph.texts, property text) ↔
      property graph.title ∧ EntriesHave property graph.attributes.entries ∧
        (∀ node ∈ graph.nodes, property node.label ∧ property node.name ∧
          EntriesHave property node.attributes.entries) ∧
        ∀ edge ∈ graph.edges, EntriesHave property edge.attributes.entries := by
  simp only [texts, List.forall_mem_append, List.forall_mem_cons,
    List.forall_mem_flatMap, forall_mem_entryTexts, and_assoc]

end Graph

namespace Dot

open GenKill.Dot.Identifier

theorem entriesHave_shownAttributes {property : Text → Prop}
    (hkey : property labelKey) {node : Node} (hname : property node.name)
    (hentries : EntriesHave property node.attributes.entries) :
    EntriesHave property node.shownAttributes := by
  rw [Node.shownAttributes]
  split
  · exact hentries
  · intro entry hmem
    rcases List.mem_cons.mp hmem with rfl | hmem
    · exact ⟨hkey, hname⟩
    · exact hentries entry hmem

theorem nodePhrase_mem {graph : Graph} {index : Nat} {node : Node}
    (hnode : graph.nodes[index]? = some node) :
    nodePhrase graph index node ∈ phrases graph := by
  obtain ⟨hindex, rfl⟩ := List.getElem?_eq_some_iff.mp hnode
  have hmem : nodePhrase graph index graph.nodes[index] ∈
      graph.nodes.mapIdx (nodePhrase graph) :=
    List.mem_mapIdx.mpr ⟨index, hindex, rfl⟩
  exact List.mem_append_left _ (List.mem_append_right _ hmem)

theorem edgePhrase_mem {graph : Graph} {edge : Edge}
    (hedge : edge ∈ graph.edges) : edgePhrase graph edge ∈ phrases graph := by
  have hsorted := (mem_sortedEdges_iff graph.edges edge).mpr hedge
  exact List.mem_append_right _ (List.mem_map_of_mem hsorted)

theorem NamesHave.attributes {graph : Graph} {property : Text → Prop}
    (hnames : NamesHave property graph) :
    EntriesHave property graph.attributes.entries := by
  by_cases hempty : graph.attributes.entries = []
  · rw [hempty]
    intro entry hmem
    cases hmem
  · have hmem : Phrase.attributes graph.attributes.entries ∈
        attributePhrases graph := by
      rw [attributePhrases, if_neg hempty]
      exact List.mem_cons_self
    exact (hnames.phrases _
      (List.mem_append_left _ (List.mem_append_left _ hmem))).entries

/-- What holds of the texts of a graph, of generated identifiers and of the key
that holds a name holds of every name in the text of the graph. -/
theorem namesHave_of_texts {graph : Graph} {property : Text → Prop}
    (hkey : property labelKey)
    (hgenerated : ∀ text, Generated text → property text)
    (htexts : ∀ text ∈ graph.texts, property text) :
    NamesHave property graph := by
  obtain ⟨htitle, hattributes, hnodes, hedges⟩ :=
    (graph.forall_mem_texts property).mp htexts
  refine ⟨htitle, fun phrase hphrase => ⟨fun id hid => ?_, ?_⟩⟩
  · obtain ⟨index, hindex, rfl⟩ := Sketch.exists_index_of_mem_ids hphrase hid
    rcases graph.dotId_cases hindex with ⟨node, hnode, hlabel⟩ | hid
    · rw [hlabel]
      exact (hnodes node hnode).1
    · exact hgenerated _ hid
  · simp only [phrases, List.mem_append, List.mem_mapIdx,
      List.mem_map] at hphrase
    rcases hphrase with (hphrase | ⟨index, hindex, rfl⟩) | ⟨edge, hedge, rfl⟩
    · rw [attributePhrases] at hphrase
      split at hphrase
      · cases hphrase
      · rw [List.mem_singleton.mp hphrase]
        exact hattributes
    · obtain ⟨-, hname, hentries⟩ := hnodes _ (List.getElem_mem hindex)
      exact entriesHave_shownAttributes hkey hname hentries
    · exact hedges edge ((mem_sortedEdges_iff graph.edges edge).mp hedge)

theorem namesFaithful {graph : Graph}
    (hfaithful : ∀ text ∈ graph.texts, Faithful text) :
    NamesHave Faithful graph :=
  namesHave_of_texts faithful_labelKey (fun _ hgenerated => hgenerated.faithful)
    hfaithful

/-! ### Scanning -/

theorem scannable_entryItems_iff (entries : List (Text × Text)) :
    (∀ item ∈ entryItems entries, item.Scannable) ↔
      EntriesHave Scannable entries := by
  simp only [entryItems, List.forall_mem_flatMap, List.forall_mem_cons,
    EntriesHave]
  simp

theorem scannable_bracketItems_iff (entries : List (Text × Text)) :
    (∀ item ∈ bracketItems entries, item.Scannable) ↔
      EntriesHave Scannable entries := by
  rw [bracketItems]
  split
  · rename_i hempty
    simp [hempty, EntriesHave]
  · simp only [List.forall_mem_cons, List.forall_mem_append,
      scannable_entryItems_iff]
    simp

theorem scannable_items_iff (phrase : Phrase) :
    (∀ item ∈ phrase.items, item.Scannable) ↔ phrase.Has Scannable := by
  have hsplit : phrase.Has Scannable ↔
      (∀ id ∈ phrase.ids, Scannable id) ∧
        EntriesHave Scannable phrase.entries :=
    ⟨fun hhas => ⟨hhas.ids, hhas.entries⟩, fun hboth => ⟨hboth.1, hboth.2⟩⟩
  rw [hsplit]
  cases phrase with
  | attributes entries =>
      simp only [Phrase.items, Phrase.ids, Phrase.entries,
        List.forall_mem_append, List.forall_mem_cons, scannable_entryItems_iff]
      simp
  | node id entries =>
      simp only [Phrase.items, Phrase.ids, Phrase.entries,
        List.forall_mem_append, List.forall_mem_cons,
        scannable_bracketItems_iff]
      simp
  | edge source target entries =>
      simp only [Phrase.items, Phrase.ids, Phrase.entries,
        List.forall_mem_append, List.forall_mem_cons,
        scannable_bracketItems_iff]
      simp [and_assoc]

/-- The items of a whole graph can be scanned exactly if all names in it can. -/
theorem scannable_graphItems_iff (graph : Graph) :
    (∀ item ∈ graphItems graph, item.Scannable) ↔
      NamesHave Scannable graph := by
  have htitle : (∀ item ∈ titleItems graph, item.Scannable) ↔
      Scannable graph.title := by
    rw [titleItems]
    split
    · rename_i hempty
      have hscannable : Scannable [] := by decide +kernel
      rw [hempty]
      exact ⟨fun _ => hscannable, fun _ item hitem => by cases hitem⟩
    · exact List.forall_mem_singleton
  have hphrases :
      (∀ item ∈ (phrases graph).flatMap Phrase.items, item.Scannable) ↔
        ∀ phrase ∈ phrases graph, phrase.Has Scannable := by
    simp only [List.forall_mem_flatMap, scannable_items_iff]
  simp only [graphItems, List.cons_append, List.forall_mem_cons,
    List.forall_mem_append, Item.scannable_mark, htitle, hphrases, true_and]
  exact ⟨fun hboth => ⟨hboth.1, hboth.2.1⟩, fun hnames =>
    ⟨hnames.title, hnames.phrases, fun item hitem => by cases hitem⟩⟩

end Dot

end GenKill
