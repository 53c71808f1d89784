import GenKill.Dot.Writer
import GenKill.Proofs.Dot.Identifier

/-!
# The tokens of a written graph

A written graph is a list of phrases: its attributes, then each node, then each
edge.  Layout gives no tokens, so what the scanner reads is the tokens of the
phrases between two braces (`tokens?_toDot`), or nothing at all if some name
cannot be scanned.
-/

namespace GenKill.Dot

/-- A token as the writer means it. -/
inductive Item where
  | mark (token : Token)
  | name (text : Text)

namespace Item

def token : Item → Token
  | mark token => token
  | name text => .id (Identifier.write text)

def Scannable : Item → Prop
  | mark _ => True
  | name text => Identifier.Scannable text

instance : DecidablePred Scannable
  | mark _ => inferInstanceAs (Decidable True)
  | name text => inferInstanceAs (Decidable (Identifier.Scannable text))

@[simp]
theorem scannable_mark (token : Token) : (mark token).Scannable := trivial

@[simp]
theorem scannable_name_iff (text : Text) :
    (name text).Scannable ↔ Identifier.Scannable text :=
  Iff.rfl

/-- The tokens of a list of items; none if one of them cannot be scanned. -/
def gather (items : List Item) : Option (List Token) :=
  if ∀ item ∈ items, item.Scannable then some (items.map token) else none

/-- Tokens are gathered part by part, and fail where one part does. -/
theorem gather_append (left right : List Item) :
    gather (left ++ right) =
      (gather left).bind fun tokens => (gather right).map (tokens ++ ·) := by
  simp only [gather, List.forall_mem_append, List.map_append]
  by_cases hleft : ∀ item ∈ left, item.Scannable
  · by_cases hright : ∀ item ∈ right, item.Scannable
    · rw [if_pos ⟨hleft, hright⟩, if_pos hleft, if_pos hright]
      rfl
    · rw [if_neg fun h => hright h.2, if_pos hleft, if_neg hright]
      rfl
  · rw [if_neg fun h => hleft h.1, if_neg hleft]
    rfl

theorem gather_marks (tokens : List Token) :
    gather (tokens.map mark) = some tokens := by
  rw [gather, if_pos]
  · rw [List.map_map]
    exact congrArg some (List.map_id tokens)
  · intro item hitem
    obtain ⟨token, -, rfl⟩ := List.mem_map.mp hitem
    trivial

end Item

open Scanning Item

/-! ### Parts of a text -/

/-- A part of a text that gives the tokens of some items and leaves nothing
pending. -/
structure Closes (text : Text) (items : List Item) : Prop where
  utf8 : text = Text.ofChars text.shown
  scans : between.scan text.shown = (gather items).map fun tokens =>
    (tokens, between)

/-- A part whose last token may still be pending: a delimiter has to follow. -/
structure Opens (text : Text) (items : List Item) : Prop where
  utf8 : text = Text.ofChars text.shown
  scans : ∀ {character}, Delimits character →
    between.scan (text.shown ++ [character]) =
      (gather items).bind fun tokens =>
        (between.scan [character]).map fun first => (tokens ++ first.1, first.2)

theorem shown_append {left right : Text}
    (hleft : left = Text.ofChars left.shown) :
    (left ++ right).shown = left.shown ++ right.shown := by
  conv_lhs => rw [hleft]
  exact Text.shown_ofChars_append left.shown right

theorem utf8_append {left right : Text} (hleft : left = Text.ofChars left.shown)
    (hright : right = Text.ofChars right.shown) :
    left ++ right = Text.ofChars (left ++ right).shown := by
  rw [shown_append hleft, Text.ofChars_append, ← hleft, ← hright]

theorem closes_literal (literal : String) (tokens : List Token)
    (hscan : between.scan literal.toList = some (tokens, between)) :
    Closes (Text.ofString literal) (tokens.map mark) := by
  rw [Text.ofString_eq_ofChars]
  refine ⟨by rw [Text.shown_ofChars], ?_⟩
  rw [Text.shown_ofChars, hscan, gather_marks]
  rfl

theorem closes_nil : Closes [] [] :=
  ⟨by rw [Text.shown_nil, Text.ofChars_nil], by rw [Text.shown_nil]; rfl⟩

/-- Parts that close can be put behind each other. -/
theorem Closes.append {left right : Text} {first second : List Item}
    (hleft : Closes left first) (hright : Closes right second) :
    Closes (left ++ right) (first ++ second) where
  utf8 := utf8_append hleft.utf8 hright.utf8
  scans := by
    rw [shown_append hleft.utf8, scan_append, hleft.scans, gather_append]
    cases gather first with
    | none => rfl
    | some tokens =>
        simp only [Option.map_some, Option.bind_some, hright.scans,
          Option.map_map]
        rfl

theorem closes_flatMap {α : Type} {list : List α} {text : α → Text}
    {items : α → List Item}
    (hparts : ∀ part ∈ list, Closes (text part) (items part)) :
    Closes (list.flatMap text) (list.flatMap items) := by
  induction list with
  | nil => exact closes_nil
  | cons head tail ih =>
      have htail :=
        ih fun part hmem => hparts part (List.mem_cons_of_mem _ hmem)
      exact (hparts head List.mem_cons_self).append htail

/-- Sections of a text with the items that all of them give. -/
inductive ClosesAll : List Text → List Item → Prop
  | nil : ClosesAll [] []
  | cons {text : Text} {texts : List Text} {first rest : List Item}
      (hfirst : Closes text first)
      (hrest : ClosesAll texts rest) : ClosesAll (text :: texts) (first ++ rest)

namespace ClosesAll

theorem append {left right : List Text} {first second : List Item}
    (hleft : ClosesAll left first) (hright : ClosesAll right second) :
    ClosesAll (left ++ right) (first ++ second) := by
  induction hleft with
  | nil => exact hright
  | cons hfirst hrest ih =>
      rw [List.cons_append, List.append_assoc]
      exact .cons hfirst ih

/-- A section that is left out if it has nothing to say. -/
theorem optional {text : Text} {items : List Item} {absent : Bool}
    (habsent : absent = true → items = [])
    (hcloses : absent = false → Closes text items) :
    ClosesAll (if absent then [] else [text]) items := by
  cases absent with
  | true =>
      rw [habsent rfl]
      exact .nil
  | false =>
      have hsection := ClosesAll.cons (hcloses rfl) .nil
      rwa [List.append_nil] at hsection

/-- Empty lines between the sections give no tokens. -/
theorem join {texts : List Text} {items : List Item}
    (hsections : ClosesAll texts items) :
    Closes (Text.join (Text.ofString "\n") texts) items := by
  induction hsections with
  | nil => exact closes_nil
  | @cons text texts first rest hfirst hrest ih =>
      cases hrest with
      | nil =>
          rw [List.append_nil]
          exact hfirst
      | cons =>
          have hbreak := closes_literal "\n" [] rfl
          have hjoined := (hfirst.append hbreak).append ih
          rwa [List.map_nil, List.append_nil] at hjoined

end ClosesAll

theorem Closes.append_opens {left right : Text} {first second : List Item}
    (hleft : Closes left first) (hright : Opens right second) :
    Opens (left ++ right) (first ++ second) where
  utf8 := utf8_append hleft.utf8 hright.utf8
  scans := by
    intro character hdelimits
    rw [shown_append hleft.utf8, List.append_assoc, scan_append, hleft.scans,
      gather_append]
    cases gather first with
    | none => rfl
    | some tokens =>
        simp only [Option.map_some, Option.bind_some, hright.scans hdelimits]
        cases gather second with
        | none => rfl
        | some more => cases between.scan [character] <;> simp

/-- The delimiter that ends a pending token belongs to the next part. -/
theorem Opens.append_closes {left right : Text} {first second : List Item}
    (hleft : Opens left first) (hright : Closes right second)
    (hdelimited : ∃ character rest,
      right.shown = character :: rest ∧ Delimits character) :
    Closes (left ++ right) (first ++ second) where
  utf8 := utf8_append hleft.utf8 hright.utf8
  scans := by
    obtain ⟨character, rest, hshown, hdelimits⟩ := hdelimited
    have hscans := hright.scans
    rw [hshown, ← List.singleton_append, scan_append] at hscans
    rw [shown_append hleft.utf8, hshown, ← List.singleton_append,
      ← List.append_assoc, scan_append, hleft.scans hdelimits, gather_append]
    cases gather first with
    | none => rfl
    | some tokens =>
        have hafter :=
          congrArg (Option.map fun result => (tokens ++ result.1, result.2))
            hscans
        rw [Option.map_map] at hafter
        simp only [Option.bind_some, Option.map_map]
        refine Eq.trans ?_ hafter
        cases between.scan [character] with
        | none => rfl
        | some opened => simp [Function.comp_def]

/-- A delimiter closes an open part. -/
theorem Opens.append_literal {text : Text} {items : List Item}
    (hopens : Opens text items) (literal : String) (tokens : List Token)
    (hscan : between.scan literal.toList = some (tokens, between))
    (hdelimited : ∃ character rest,
      literal.toList = character :: rest ∧ Delimits character) :
    Closes (text ++ Text.ofString literal) (items ++ tokens.map mark) := by
  refine hopens.append_closes (closes_literal literal tokens hscan) ?_
  rwa [Text.ofString_eq_ofChars, Text.shown_ofChars]

/-! ### Names and attributes -/

theorem opens_bare {text : Text} (hwrite : Identifier.write text = text)
    (hidentifier : Identifier.IsIdentifier text) : Opens text [.name text] where
  utf8 := by
    obtain ⟨characters, rfl⟩ := hidentifier.exists_ofChars
    rw [Text.shown_ofChars]
  scans := by
    intro character hdelimits
    have hscannable : ∀ item ∈ [name text], item.Scannable := by
      intro item hitem
      rw [List.mem_singleton.mp hitem]
      exact fun hne => absurd hwrite hne
    rw [scan_delimiter hidentifier hdelimits, gather, if_pos hscannable]
    simp only [List.map_cons, List.map_nil, token, hwrite, Option.bind_some]

theorem opens_quoted {text : Text} (hwrite : Identifier.write text ≠ text) :
    Opens text.quote [.name text] where
  utf8 := by
    obtain ⟨characters, -, hquote⟩ := Text.exists_quote text
    rw [hquote, Text.shown_ofChars]
  scans := by
    intro character hdelimits
    have hquote := Identifier.write_eq_quote hwrite
    have hscannable : (∀ item ∈ [name text], item.Scannable) ↔
        replacement ∉ text.quote.shown := by
      rw [List.forall_mem_singleton, ← hquote]
      exact ⟨fun h => h hwrite, fun h _ => h⟩
    rw [scan_append, scan_quote]
    by_cases hreplacement : replacement ∈ text.quote.shown
    · rw [if_pos hreplacement, gather,
        if_neg fun h => hscannable.mp h hreplacement]
      rfl
    · rw [if_neg hreplacement, gather, if_pos (hscannable.mpr hreplacement)]
      simp only [Option.bind_some, List.map_cons, List.map_nil, token, hquote]

/-- A written name is one token, or cannot be scanned. -/
theorem opens_write {text : Text} (hfaithful : Identifier.Faithful text) :
    Opens (Identifier.write text) [.name text] := by
  by_cases hwrite : Identifier.write text = text
  · rw [hwrite]
    exact opens_bare hwrite (hfaithful hwrite)
  · rw [Identifier.write_eq_quote hwrite]
    exact opens_quoted hwrite

def entryItems (entries : List (Text × Text)) : List Item :=
  entries.flatMap fun entry => [.name entry.1, .mark .equals, .name entry.2]

/-- The items of attributes in brackets; nothing for no attributes. -/
def bracketItems (entries : List (Text × Text)) : List Item :=
  if entries = [] then []
  else .mark .leftBracket :: (entryItems entries ++ [.mark .rightBracket])

def EntriesHave (property : Text → Prop) (entries : List (Text × Text)) :
    Prop :=
  ∀ entry ∈ entries, property entry.1 ∧ property entry.2

abbrev EntriesFaithful := EntriesHave Identifier.Faithful

theorem opens_attributeText {entry : Text × Text}
    (hkey : Identifier.Faithful entry.1)
    (hvalue : Identifier.Faithful entry.2) :
    Opens (attributeText entry)
      [.name entry.1, .mark .equals, .name entry.2] := by
  have hequals :=
    (opens_write hkey).append_literal "=" [.equals] rfl
      ⟨'=', [], rfl, by decide⟩
  exact hequals.append_opens (opens_write hvalue)

theorem closes_attributeLine {entry : Text × Text}
    (hkey : Identifier.Faithful entry.1)
    (hvalue : Identifier.Faithful entry.2) :
    Closes (attributeLine entry)
      [.name entry.1, .mark .equals, .name entry.2] := by
  have htabs := closes_literal "\t\t" [] rfl
  exact (htabs.append_opens (opens_attributeText hkey hvalue)).append_literal
    "\n" [] rfl ⟨'\n', [], rfl, by decide⟩

theorem closes_attributeLines {entries : List (Text × Text)}
    (hentries : EntriesFaithful entries) :
    Closes (entries.flatMap attributeLine) (entryItems entries) :=
  closes_flatMap fun entry hmem =>
    closes_attributeLine (hentries entry hmem).1 (hentries entry hmem).2

/-- The attributes after a name and the end of the statement. -/
theorem Opens.append_attributes {text : Text} {items : List Item}
    (hopens : Opens text items) {entries : List (Text × Text)}
    (hentries : EntriesFaithful entries) :
    Closes (text ++ attributeList entries ++ Text.ofString ";\n")
      (items ++ (bracketItems entries ++ [.mark .semicolon])) := by
  have hend := closes_literal ";\n" [.semicolon] rfl
  match entries, hentries with
  | [], _ =>
      rw [attributeList, List.append_nil]
      exact hopens.append_literal ";\n" [.semicolon] rfl
        ⟨';', ['\n'], rfl, by decide⟩
  | [entry], hentries =>
      have hentry := hentries entry List.mem_cons_self
      have hstart :=
        hopens.append_literal " [" [.leftBracket] rfl
          ⟨' ', ['['], rfl, by decide⟩
      have hinner := hstart.append_opens (opens_attributeText hentry.1 hentry.2)
      have hclose :=
        hinner.append_literal "]" [.rightBracket] rfl ⟨']', [], rfl, by decide⟩
      simpa [attributeList, bracketItems, entryItems] using hclose.append hend
  | first :: second :: rest, hentries =>
      have hstart := hopens.append_literal " [\n" [.leftBracket] rfl
        ⟨' ', ['[', '\n'], rfl, by decide⟩
      have hinner := hstart.append (closes_attributeLines hentries)
      have hclose := hinner.append (closes_literal "\t]" [.rightBracket] rfl)
      simpa [attributeList, bracketItems] using hclose.append hend

/-! ### Phrases -/

/-- What stands on its own between the braces of a written graph. -/
inductive Phrase where
  | attributes (entries : List (Text × Text))
  | node (id : Text) (entries : List (Text × Text))
  | edge (source target : Text) (entries : List (Text × Text))

namespace Phrase

def items : Phrase → List Item
  | attributes entries =>
      [.mark .graph, .mark .leftBracket] ++ entryItems entries ++
        [.mark .rightBracket, .mark .semicolon]
  | node id entries => .name id :: (bracketItems entries ++ [.mark .semicolon])
  | edge source target entries =>
      [.name source, .mark .arrow, .name target] ++
        (bracketItems entries ++ [.mark .semicolon])

def entries : Phrase → List (Text × Text)
  | attributes entries => entries
  | node _ entries => entries
  | edge _ _ entries => entries

def ids : Phrase → List Text
  | attributes _ => []
  | node id _ => [id]
  | edge source target _ => [source, target]

/-- Every name in a phrase has a property. -/
structure Has (property : Text → Prop) (phrase : Phrase) : Prop where
  ids : ∀ id ∈ phrase.ids, property id
  entries : EntriesHave property phrase.entries

abbrev Faithful := Has Identifier.Faithful

end Phrase

/-! ### Graphs -/

def nodePhrase (graph : Graph) (index : Nat) (node : Node) : Phrase :=
  .node (graph.dotId index) node.shownAttributes

def edgePhrase (graph : Graph) (edge : Edge) : Phrase :=
  .edge (graph.dotId edge.source) (graph.dotId edge.target)
    edge.attributes.entries

def attributePhrases (graph : Graph) : List Phrase :=
  if graph.attributes.entries = [] then []
  else [.attributes graph.attributes.entries]

def phrases (graph : Graph) : List Phrase :=
  attributePhrases graph ++ graph.nodes.mapIdx (nodePhrase graph) ++
    (sortedEdges graph.edges).map (edgePhrase graph)

def titleItems (graph : Graph) : List Item :=
  if graph.title = [] then [] else [.name graph.title]

def graphItems (graph : Graph) : List Item :=
  .mark .digraph :: titleItems graph ++
    (.mark .leftBrace ::
      ((phrases graph).flatMap Phrase.items ++ [.mark .rightBrace]))

/-- Every name in the text of a graph has a property. -/
structure NamesHave (property : Text → Prop) (graph : Graph) : Prop where
  title : property graph.title
  phrases : ∀ phrase ∈ phrases graph, phrase.Has property

theorem NamesHave.imp {graph : Graph} {property other : Text → Prop}
    (himp : ∀ text, property text → other text)
    (hnames : NamesHave property graph) : NamesHave other graph where
  title := himp _ hnames.title
  phrases := fun phrase hphrase =>
    { ids := fun id hid => himp id ((hnames.phrases phrase hphrase).ids id hid)
      entries := fun entry hentry =>
        ((hnames.phrases phrase hphrase).entries entry hentry).imp (himp _)
          (himp _) }

/-- The line of a node scans into the items of its phrase. -/
theorem closes_nodeText {graph : Graph} {index : Nat} {node : Node}
    (hfaithful : (nodePhrase graph index node).Faithful) :
    Closes (nodeText graph index node) (nodePhrase graph index node).items := by
  have hid := opens_write (hfaithful.ids (graph.dotId index) List.mem_cons_self)
  have htab := closes_literal "\t" [] rfl
  exact (htab.append_opens hid).append_attributes hfaithful.entries

theorem closes_edgeText {graph : Graph} {edge : Edge}
    (hfaithful : (edgePhrase graph edge).Faithful) :
    Closes (edgeText graph edge) (edgePhrase graph edge).items := by
  have hsource :=
    opens_write (hfaithful.ids (graph.dotId edge.source) List.mem_cons_self)
  have htarget := opens_write
    (hfaithful.ids (graph.dotId edge.target)
      (List.mem_cons_of_mem _ List.mem_cons_self))
  have htab := closes_literal "\t" [] rfl
  have harrow := (htab.append_opens hsource).append_literal " -> " [.arrow] rfl
    ⟨' ', ['-', '>', ' '], rfl, by decide⟩
  exact (harrow.append_opens htarget).append_attributes hfaithful.entries

theorem closes_attributeSection {entries : List (Text × Text)}
    (hentries : EntriesFaithful entries) :
    Closes (Text.ofString "\tgraph [\n" ++ entries.flatMap attributeLine ++
        Text.ofString "\t];\n")
      (Phrase.attributes entries).items := by
  have hstart := closes_literal "\tgraph [\n" [.graph, .leftBracket] rfl
  have hend := closes_literal "\t];\n" [.rightBracket, .semicolon] rfl
  exact (hstart.append (closes_attributeLines hentries)).append hend

theorem closes_nodeSection {graph : Graph}
    (hfaithful : ∀ phrase ∈ graph.nodes.mapIdx (nodePhrase graph),
      phrase.Faithful) :
    Closes (Text.ofString "\t// Node definitions.\n" ++
        (graph.nodes.mapIdx (nodeText graph)).flatten)
      ((graph.nodes.mapIdx (nodePhrase graph)).flatMap Phrase.items) := by
  have hcomment := closes_literal "\t// Node definitions.\n" [] rfl
  rw [List.mapIdx_eq_zipIdx_map] at hfaithful
  rw [List.mapIdx_eq_zipIdx_map, List.mapIdx_eq_zipIdx_map, List.flatMap_map,
    ← List.flatMap_def]
  refine hcomment.append (closes_flatMap fun entry hmem => ?_)
  exact closes_nodeText (hfaithful _ (List.mem_map_of_mem hmem))

theorem closes_edgeSection {graph : Graph}
    (hfaithful : ∀ phrase ∈ (sortedEdges graph.edges).map (edgePhrase graph),
      phrase.Faithful) :
    Closes (Text.ofString "\t// Edge definitions.\n" ++
        (sortedEdges graph.edges).flatMap (edgeText graph))
      (((sortedEdges graph.edges).map (edgePhrase graph)).flatMap
        Phrase.items) := by
  have hcomment := closes_literal "\t// Edge definitions.\n" [] rfl
  rw [List.flatMap_map]
  refine hcomment.append (closes_flatMap fun edge hmem => ?_)
  exact closes_edgeText (hfaithful _ (List.mem_map_of_mem hmem))

theorem mem_sortedEdges_iff (edges : List Edge) (edge : Edge) :
    edge ∈ sortedEdges edges ↔ edge ∈ edges :=
  (List.mergeSort_perm edges _).mem_iff

theorem sortedEdges_eq_nil_iff (edges : List Edge) :
    sortedEdges edges = [] ↔ edges = [] := by
  rw [← List.length_eq_zero_iff, sortedEdges, List.length_mergeSort,
    List.length_eq_zero_iff]

/-- The sections of a graph scan into the items of its phrases, in order. -/
theorem closes_sections {graph : Graph}
    (hfaithful : ∀ phrase ∈ phrases graph, phrase.Faithful) :
    Closes (Text.join (Text.ofString "\n") (sections graph))
      ((phrases graph).flatMap Phrase.items) := by
  simp only [phrases, List.forall_mem_append] at hfaithful
  obtain ⟨⟨hattributes, hnodes⟩, hedges⟩ := hfaithful
  rw [phrases, List.flatMap_append, List.flatMap_append]
  refine ClosesAll.join (ClosesAll.append (ClosesAll.append ?_ ?_) ?_)
  · refine ClosesAll.optional (fun habsent => ?_) fun hpresent => ?_
    · rw [attributePhrases, if_pos (List.isEmpty_iff.mp habsent)]
      rfl
    · have hphrases : attributePhrases graph =
          [.attributes graph.attributes.entries] := by
        rw [attributePhrases, if_neg (by simpa using hpresent)]
      rw [hphrases] at hattributes ⊢
      have hsection :=
        closes_attributeSection (hattributes _ List.mem_cons_self).entries
      rwa [List.flatMap_singleton]
  · refine ClosesAll.optional (fun habsent => ?_) fun _ =>
      closes_nodeSection hnodes
    rw [List.isEmpty_iff.mp habsent]
    rfl
  · refine ClosesAll.optional (fun habsent => ?_) fun _ =>
      closes_edgeSection hedges
    rw [(sortedEdges_eq_nil_iff graph.edges).mpr (List.isEmpty_iff.mp habsent)]
    rfl

/-- The text of a graph gives the tokens of its phrases between two braces. -/
theorem closes_toDot {graph : Graph}
    (hfaithful : NamesHave Identifier.Faithful graph) :
    Closes graph.toDot (graphItems graph) := by
  have hkeyword := closes_literal "digraph " [.digraph] rfl
  have htitle : Closes (if graph.title = [] then [] else
      Identifier.write graph.title ++ Text.ofString " ")
      (titleItems graph) := by
    rw [titleItems]
    split
    · exact closes_nil
    · have hname := opens_write hfaithful.title
      exact hname.append_literal " " [] rfl ⟨' ', [], rfl, by decide⟩
  have hopen := closes_literal "\x7b\n" [.leftBrace] rfl
  have hgap :
      Closes (if graph.nodes.isEmpty && !graph.attributes.entries.isEmpty then
        Text.ofString "\n" else []) [] := by
    split
    · exact closes_literal "\n" [] rfl
    · exact closes_nil
  have hclose := closes_literal "\x7d" [.rightBrace] rfl
  have hwhole := ((((hkeyword.append htitle).append hopen).append
    (closes_sections hfaithful.phrases)).append hgap).append hclose
  simpa [Graph.toDot, graphItems] using hwhole

/-- The text of a graph scans into its tokens, or not at all if one of its names
cannot be scanned. -/
theorem tokens?_toDot {graph : Graph}
    (hfaithful : NamesHave Identifier.Faithful graph) :
    tokens? graph.toDot = gather (graphItems graph) := by
  rw [tokens?, run_eq_scan, (closes_toDot hfaithful).scans]
  cases gather (graphItems graph) with
  | none => rfl
  | some tokens => simp [finish]

end GenKill.Dot
