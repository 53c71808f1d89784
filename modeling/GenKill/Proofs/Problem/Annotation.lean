import GenKill.Problem.Annotation
import GenKill.Proofs.Problem.Elements
import GenKill.Proofs.Problem.System
import GenKill.Proofs.Table

/-!
# A problem comes back from its graph

Annotating records a problem in the attributes of its graph: a list that is
empty leaves its attribute out, while an empty universe is recorded as the empty
text.  Any graph with these records, whatever else it carries, gives the problem
back, since elements that can be listed come back from their text.
-/

namespace GenKill

theorem firstRepeat?_of_nodup {seen elements : List Text}
    (hnodup : elements.Nodup) (hfresh : ∀ element ∈ elements, element ∉ seen) :
    firstRepeat? seen elements = none := by
  induction elements generalizing seen with
  | nil => rfl
  | cons first rest ih =>
      obtain ⟨hfirst, hrest⟩ := List.nodup_cons.mp hnodup
      rw [firstRepeat?, if_neg (hfresh first List.mem_cons_self)]
      apply ih hrest
      intro element hmem hseen
      rcases List.mem_cons.mp hseen with heq | hseen
      · exact hfirst (heq ▸ hmem)
      · exact hfresh element (List.mem_cons_of_mem _ hmem) hseen

theorem Universe.ofList_of_nodup (ident : Nat) {elements : List Text}
    (hnodup : elements.Nodup) :
    Universe.ofList ident elements = .ok ⟨ident, elements, hnodup⟩ := by
  have hnone : firstRepeat? [] elements = none :=
    firstRepeat?_of_nodup hnodup fun _ _ => List.not_mem_nil
  rw [Universe.ofList]
  split
  · rename_i element hsome
    rw [hnone] at hsome
    cases hsome
  · rfl

theorem Graph.ext {left right : Graph} (hident : left.ident = right.ident)
    (htitle : left.title = right.title)
    (hattributes : left.attributes = right.attributes)
    (hnodes : left.nodes = right.nodes) (hedges : left.edges = right.edges) :
    left = right := by
  cases left
  cases right
  simp only [Graph.mk.injEq]
  exact ⟨hident, htitle, hattributes, hnodes, hedges⟩

/-- A table that has an entry for some of the items of a list, under the node
with their number. -/
theorem Graph.get?_ofList_sites {α β : Type} (graph : Graph) (items : List α)
    (entry : α → Option β) (index : Nat) :
    (Table.ofList (items.zipIdx.filterMap fun (item, number) =>
        (entry item).map fun value => (graph.site number, value))).get?
        (graph.site index) =
      items[index]?.bind entry := by
  let pairs := items.zipIdx.filterMap fun (item, number) =>
    (entry item).map fun value => (graph.site number, value)
  have hmem : ∀ site value, (site, value) ∈ pairs ↔
      ∃ number,
        site = graph.site number ∧ items[number]?.bind entry = some value := by
    intro site value
    simp only [pairs, List.mem_filterMap, Prod.exists,
      List.mem_zipIdx_iff_getElem?]
    constructor
    · rintro ⟨item, number, hitem, hentry⟩
      obtain ⟨found, hfound, heq⟩ := Option.map_eq_some_iff.mp hentry
      cases heq
      exact ⟨number, rfl, by rw [hitem, Option.bind_some, hfound]⟩
    · rintro ⟨number, rfl, hfound⟩
      obtain ⟨item, hitem, hentry⟩ := Option.bind_eq_some_iff.mp hfound
      exact ⟨item, number, hitem, by rw [hentry, Option.map_some]⟩
  have hnumbers : items.zipIdx.Pairwise fun left right => left.2 ≠ right.2 := by
    rw [← List.pairwise_map, List.zipIdx_map_snd]
    exact List.nodup_range'
  have hnodup : (pairs.map Prod.fst).Nodup := by
    rw [List.Nodup, List.pairwise_map, List.pairwise_filterMap]
    refine hnumbers.imp fun hne left hleft right hright heq => ?_
    obtain ⟨_, _, rfl⟩ := Option.map_eq_some_iff.mp hleft
    obtain ⟨_, _, rfl⟩ := Option.map_eq_some_iff.mp hright
    exact hne (Graph.site_inj.mp heq)
  have hget := Table.get?_insertAll hnodup Table.empty (graph.site index)
  rw [Table.get?_empty, Option.or_none] at hget
  refine hget.trans ?_
  cases hfound : items[index]?.bind entry with
  | none =>
      apply Entries.get?_eq_none_of_not_mem
      intro hkey
      obtain ⟨⟨site, value⟩, hpair, heq⟩ := List.mem_map.mp hkey
      obtain ⟨number, rfl, hvalue⟩ := (hmem site value).mp hpair
      rw [Graph.site_inj.mp heq, hfound] at hvalue
      cases hvalue
  | some value =>
      exact Entries.get?_of_mem hnodup ((hmem _ value).mpr ⟨index, rfl, hfound⟩)

theorem Initial.ofText_text (initial : Initial) :
    Initial.ofText initial.text = .ok initial := by
  cases initial with
  | empty =>
      have hlower : empty.text.trim.lower = "empty" := by decide +kernel
      exact if_pos (.inr hlower)
  | full =>
      have hlower : full.text.trim.lower = "universe" := by decide +kernel
      have hother :
          ¬(full.text.trim.lower = [] ∨ full.text.trim.lower = "empty") := by
        rw [hlower]
        decide
      exact (if_neg hother).trans (if_pos (.inl hlower))

theorem Direction.ofText_text {direction : Direction}
    (hdirection : direction = .forward ∨ direction = .backward) :
    Direction.ofText direction.text = .ok direction := by
  rcases hdirection with rfl | rfl
  · have hlower : forward.text.lower = "forward" := by decide +kernel
    exact if_pos (.inl hlower)
  · have hlower : backward.text.lower = "backward" := by decide +kernel
    have hother :
        ¬(backward.text.lower = "forward" ∨ backward.text.lower = "fwd") := by
      rw [hlower]
      decide
    exact (if_neg hother).trans (if_pos (.inl hlower))

namespace Problem

/-! ### Lists in attributes -/

/-- The text that records a list; an empty list has none. -/
def listText? (elements : List Text) : Option Text :=
  if elements = [] then none else some (Elements.join elements)

/-- A list of listable elements comes back from its attribute, and the empty one
from none. -/
theorem split_listText? {elements : List Text}
    (hlistable : ∀ element ∈ elements, Elements.isListable element = true) :
    Elements.split ((listText? elements).getD []) = elements := by
  rw [listText?]
  split
  · rename_i hempty
    rw [hempty]
    exact Elements.split_nil
  · exact Elements.split_join hlistable

/-- Setting a list changes the attribute with its key, and no other. -/
theorem get?_setList (attributes : Attributes) (key other : Text)
    (elements : Option (List Text)) :
    (setList attributes key elements).get? other =
      if other = key then listText? (elements.getD [])
      else attributes.get? other := by
  cases elements with
  | none => exact Table.get?_erase attributes key other
  | some elements =>
      cases elements with
      | nil => exact Table.get?_erase attributes key other
      | cons first rest =>
          have hne : first :: rest ≠ [] := List.cons_ne_nil first rest
          change (attributes.insert key (Elements.join (first :: rest))).get?
            other = _
          rw [Table.get?_insert, Option.getD_some, listText?, if_neg hne]
          simp only [eq_comm]

theorem listAt_declaredLists {graph : Graph} {index : Nat} {node : Node}
    (hnode : graph.nodes[index]? = some node) (key : Text) :
    listAt (declaredLists graph key) (graph.site index) = listed node key := by
  have hget := graph.get?_ofList_sites graph.nodes
    (fun node => (node.attributes.get? key).map Elements.split) index
  simp only [Option.map_map] at hget
  rw [hnode, Option.bind_some] at hget
  rw [listAt, listed, declaredLists]
  refine (congrArg (Option.getD · []) hget).trans ?_
  cases node.attributes.get? key with
  | none => exact Elements.split_nil.symm
  | some text => rfl

/-! ### Reading the records -/

/-- A graph that has a problem recorded in its attributes, node by node. -/
structure Records (graph : Graph) (problem : Problem) : Prop where
  elements : graph.attributes.get? "universe" =
    some (Elements.join problem.facts.elements)
  initial : graph.attributes.get? "initial" = some problem.initial.text
  direction : graph.attributes.get? "direction" = some problem.direction.text
  size : graph.size = problem.graph.size
  gen : ∀ index node, graph.nodes[index]? = some node →
    node.attributes.get? "gen" =
      listText? (listAt problem.gen (problem.graph.site index))
  kill : ∀ index node, graph.nodes[index]? = some node →
    node.attributes.get? "kill" =
      listText? (listAt problem.kill (problem.graph.site index))

/-- Both systems have the same members in the gen, kill and out sets of two
nodes. -/
structure SameMembers (left right : System) (leftSite rightSite : Site) :
    Prop where
  gen : (left.gen.get leftSite).elements = (right.gen.get rightSite).elements
  kill : (left.kill.get leftSite).elements = (right.kill.get rightSite).elements
  out : (left.out.get leftSite).elements = (right.out.get rightSite).elements

theorem elements_value {left right : Universe}
    (helements : left.elements = right.elements) (initial : Initial) :
    (initial.value left).elements = (initial.value right).elements := by
  rw [FactSet.elements_eq_filter (facts_value initial left),
    FactSet.elements_eq_filter (facts_value initial right), helements]
  apply List.filter_congr
  intro element _
  cases initial with
  | empty => rw [Initial.value, Initial.value, FactSet.contains_empty,
    FactSet.contains_empty]
  | full =>
      rw [Initial.value, Initial.value, FactSet.contains_full,
        FactSet.contains_full, helements]

/-- Problems over the same elements whose nodes list the same elements have
systems with the same sets. -/
theorem sameMembers_of_lists {left right : Problem}
    {leftSystem rightSystem : System} (hleft : left.system = .ok leftSystem)
    (hright : right.system = .ok rightSystem)
    (helements : left.facts.elements = right.facts.elements)
    (hinitial : left.initial = right.initial) {leftSite rightSite : Site}
    (hleftSite : leftSite ∈ left.graph.sites)
    (hrightSite : rightSite ∈ right.graph.sites)
    (hgen : ∀ element,
      element ∈ listAt left.gen leftSite ↔ element ∈ listAt right.gen rightSite)
    (hkill : ∀ element,
      element ∈ listAt left.kill leftSite ↔
        element ∈ listAt right.kill rightSite) :
    SameMembers leftSystem rightSystem leftSite rightSite := by
  have hleftDefines := defines_of_system hleft
  have hrightDefines := defines_of_system hright
  have hleftMem := List.mem_reverse.mpr hleftSite
  have hrightMem := List.mem_reverse.mpr hrightSite
  constructor
  · rw [(hleftDefines.gen leftSite).elements_eq,
      (hrightDefines.gen rightSite).elements_eq, if_pos hleftMem,
      if_pos hrightMem, helements]
    simp only [hgen]
  · rw [(hleftDefines.kill leftSite).elements_eq,
      (hrightDefines.kill rightSite).elements_eq, if_pos hleftMem,
      if_pos hrightMem, helements]
    simp only [hkill]
  · rw [hleftDefines.out, hrightDefines.out, hinitial]
    exact elements_value helements right.initial

/-- What a graph declares makes a problem, if its system can be set up. -/
theorem ofGraph_eq {graph : Graph} (ident : Nat) {elements : List Text}
    (hnodup : elements.Nodup) {initial : Initial} {direction : Direction}
    (helements : declaredElements graph = elements)
    (hinitial : Initial.ofText ((graph.attributes.get? "initial").getD []) =
      .ok initial)
    (hdirection : declaredDirection graph = .ok direction) :
    ofGraph ident graph = checked {
      name := graph.title
      graph
      facts := ⟨ident, elements, hnodup⟩
      initial, direction
      gen := declaredLists graph "gen"
      kill := declaredLists graph "kill" } := by
  rw [ofGraph, helements, Universe.ofList_of_nodup ident hnodup]
  simp only [hinitial, hdirection]

theorem checked_of_system {problem : Problem} {system : System}
    (hsystem : problem.system = .ok system) :
    problem.checked = .ok problem := by
  rw [checked, hsystem]

/-- A list that is recorded at a node is the list that the node declares. -/
theorem listAt_declaredLists_of_record {graph : Graph} {key : Text}
    {index : Nat} {elements : List Text} (hindex : index < graph.size)
    (hlistable : ∀ element ∈ elements, Elements.isListable element = true)
    (hrecord : ∀ node, graph.nodes[index]? = some node →
      node.attributes.get? key = listText? elements) :
    listAt (declaredLists graph key) (graph.site index) = elements := by
  have hnode : graph.nodes[index]? = some graph.nodes[index] :=
    List.getElem?_eq_getElem hindex
  rw [listAt_declaredLists hnode, listed, hrecord _ hnode,
    split_listText? hlistable]

theorem site_mem_sites {graph : Graph} {index : Nat}
    (hindex : index < graph.size) : graph.site index ∈ graph.sites :=
  List.mem_map_of_mem (List.mem_range.mpr hindex)

/-- A graph that has a problem recorded gives a problem with the same sets. -/
theorem Records.exists_ofGraph {graph : Graph} {problem : Problem}
    {system : System} (ident : Nat) (hrecords : Records graph problem)
    (hsystem : problem.system = .ok system)
    (hdirection : problem.direction = .forward ∨
      problem.direction = .backward) :
    ∃ copy again, ofGraph ident graph = .ok copy ∧ copy.system = .ok again ∧
      copy.name = graph.title ∧ copy.graph = graph ∧
      copy.facts.elements = problem.facts.elements ∧
      copy.initial = problem.initial ∧
      copy.direction = problem.direction ∧
      ∀ index < graph.size,
        SameMembers again system (graph.site index)
          (problem.graph.site index) := by
  obtain ⟨hlistable, hinside⟩ := problem.exists_system_iff.mp ⟨system, hsystem⟩
  have hsites : ∀ index < graph.size,
      problem.graph.site index ∈ problem.graph.sites :=
    fun index hindex => site_mem_sites (hrecords.size ▸ hindex)
  have hgen : ∀ index < graph.size,
      listAt (declaredLists graph "gen") (graph.site index) =
        listAt problem.gen (problem.graph.site index) := by
    intro index hindex
    have hmem := (hinside _ (hsites index hindex)).1
    exact listAt_declaredLists_of_record hindex
      (fun element h => hlistable element (hmem element h)) (hrecords.gen index)
  have hkill : ∀ index < graph.size,
      listAt (declaredLists graph "kill") (graph.site index) =
        listAt problem.kill (problem.graph.site index) := by
    intro index hindex
    have hmem := (hinside _ (hsites index hindex)).2
    exact listAt_declaredLists_of_record hindex
      (fun element h => hlistable element (hmem element h))
        (hrecords.kill index)
  have helements : declaredElements graph = problem.facts.elements := by
    rw [declaredElements, hrecords.elements]
    exact Elements.split_join hlistable
  have hinitial :
      Initial.ofText ((graph.attributes.get? "initial").getD []) =
        .ok problem.initial := by
    rw [hrecords.initial]
    exact problem.initial.ofText_text
  have hdeclared : declaredDirection graph = .ok problem.direction := by
    rw [declaredDirection, hrecords.direction]
    exact Direction.ofText_text hdirection
  have hcopy :=
    ofGraph_eq ident problem.facts.nodup helements hinitial hdeclared
  obtain ⟨again, hagain⟩ : ∃ again, Problem.system {
      name := graph.title
      graph
      facts := ⟨ident, problem.facts.elements, problem.facts.nodup⟩
      initial := problem.initial
      direction := problem.direction
      gen := declaredLists graph "gen"
      kill := declaredLists graph "kill" } = .ok again := by
    rw [exists_system_iff]
    refine ⟨hlistable, fun site hsite => ?_⟩
    obtain ⟨index, hrange, rfl⟩ := List.mem_map.mp hsite
    have hindex : index < graph.size := List.mem_range.mp hrange
    rw [Inside, hgen index hindex, hkill index hindex]
    exact hinside _ (hsites index hindex)
  refine ⟨_, again, hcopy.trans (checked_of_system hagain), hagain, rfl, rfl,
    rfl, rfl, rfl, ?_⟩
  intro index hindex
  apply sameMembers_of_lists hagain hsystem rfl rfl (site_mem_sites hindex)
    (hsites index hindex)
  · intro element
    rw [hgen index hindex]
  · intro element
    rw [hkill index hindex]

/-! ### Writing the records -/

/-- The attributes of a node that annotating writes; it writes the out set of a
system only. -/
def noteKeys (shown : Option System) : List Text :=
  match shown with
  | none => ["gen", "kill"]
  | some _ => ["gen", "kill", "out"]

/-- What annotating records at a node. -/
def note? (problem : Problem) (shown : Option System) (index : Nat)
    (key : Text) : Option Text :=
  let site := problem.graph.site index
  if key = "gen" then listText? (listAt problem.gen site)
  else if key = "kill" then listText? (listAt problem.kill site)
  else shown.map fun system => Elements.join (system.out.get site).elements

def graphKeys : List Text := ["universe", "initial", "direction"]

def graphNote (problem : Problem) (key : Text) : Text :=
  if key = "universe" then Elements.join problem.facts.elements
  else if key = "initial" then problem.initial.text
  else problem.direction.text

section Annotate

variable (problem : Problem) (shown : Option System)

/-- A note replaces the attribute with its key, and the other attributes stay.
-/
theorem get?_annotateNode (index : Nat) (node : Node) (key : Text) :
    (problem.annotateNode shown index node).get? key =
      if key ∈ noteKeys shown then problem.note? shown index key
      else node.attributes.get? key := by
  have hkill : Text.ofString "kill" ≠ "gen" := by decide
  have hgen : Text.ofString "out" ≠ "gen" := by decide
  have hout : Text.ofString "out" ≠ "kill" := by decide
  let defined := setList
    (setList node.attributes "gen"
      (problem.gen.get? (problem.graph.site index)))
    "kill" (problem.kill.get? (problem.graph.site index))
  have hdefined : ∀ key, defined.get? key =
      if key ∈ noteKeys none then problem.note? shown index key
      else node.attributes.get? key := by
    intro key
    rw [get?_setList, get?_setList, noteKeys, note?]
    by_cases hkey : key = "gen"
    · simp [hkey, Ne.symm hkill, listAt]
    · by_cases hkey' : key = "kill" <;> simp [hkey, hkey', hkill, listAt]
  cases shown with
  | none => exact hdefined key
  | some system =>
      change (defined.insert "out" (Elements.join
        (system.out.get (problem.graph.site index)).elements)).get? key = _
      rw [Table.get?_insert, hdefined, noteKeys, noteKeys]
      by_cases hkey : key = "out"
      · simp [hkey, note?, hgen, hout]
      · simp [hkey, Ne.symm hkey]

/-- The graph gets an attribute for each part of the problem, and keeps the
others. -/
theorem get?_annotatedGraph (key : Text) :
    (problem.annotatedGraph shown).attributes.get? key =
      if key ∈ graphKeys then some (problem.graphNote key)
      else problem.graph.attributes.get? key := by
  have hinitial : Text.ofString "initial" ≠ "universe" := by decide
  have hdirection :
      Text.ofString "direction" ≠ "universe" ∧
        Text.ofString "direction" ≠ "initial" := by decide
  change (((problem.graph.attributes.insert "universe" _).insert
    "initial" _).insert "direction" _).get? key = _
  rw [Table.get?_insert, Table.get?_insert, Table.get?_insert, graphKeys,
    graphNote]
  by_cases hlast : key = "direction"
  · simp [hlast, hdirection]
  · by_cases hmiddle : key = "initial"
    · simp [hmiddle, hinitial, hdirection]
    · by_cases hfirst : key = "universe"
      · simp [hfirst, hinitial, hdirection]
      · simp [hlast, hmiddle, hfirst, Ne.symm hlast, Ne.symm hmiddle,
          Ne.symm hfirst]

theorem getElem?_annotatedGraph (index : Nat) :
    (problem.annotatedGraph shown).nodes[index]? =
      problem.graph.nodes[index]?.map fun node =>
        { node with attributes := problem.annotateNode shown index node } :=
  List.getElem?_mapIdx

theorem site_annotatedGraph :
    (problem.annotatedGraph shown).site = problem.graph.site := by
  funext index
  rw [Graph.site, Graph.site, getElem?_annotatedGraph, Option.map_map]
  rfl

theorem size_annotatedGraph :
    (problem.annotatedGraph shown).size = problem.graph.size :=
  List.length_mapIdx

/-- Annotating records the problem. -/
theorem records_annotatedGraph :
    Records (problem.annotatedGraph shown) problem := by
  have hkeys : Text.ofString "gen" ∈ noteKeys shown ∧
      Text.ofString "kill" ∈ noteKeys shown := by
    cases shown <;> simp [noteKeys]
  have hkill : Text.ofString "kill" ≠ "gen" := by decide
  refine ⟨?_, ?_, ?_, problem.size_annotatedGraph shown, ?_, ?_⟩
  · rw [get?_annotatedGraph]
    rfl
  · rw [get?_annotatedGraph]
    rfl
  · rw [get?_annotatedGraph]
    rfl
  · intro index node hnode
    rw [getElem?_annotatedGraph] at hnode
    obtain ⟨plain, -, rfl⟩ := Option.map_eq_some_iff.mp hnode
    rw [get?_annotateNode, if_pos hkeys.1, note?, if_pos rfl]
  · intro index node hnode
    rw [getElem?_annotatedGraph] at hnode
    obtain ⟨plain, -, rfl⟩ := Option.map_eq_some_iff.mp hnode
    rw [get?_annotateNode, if_pos hkeys.2, note?, if_neg hkill, if_pos rfl]

/-! ### Annotating again -/

theorem note?_annotate :
    (problem.annotate shown).note? shown = problem.note? shown := by
  funext index key
  have hsite : (problem.annotate shown).graph.site index =
      problem.graph.site index :=
    congrFun (problem.site_annotatedGraph shown) index
  simp only [note?, hsite]
  rfl

theorem title_annotate :
    ((problem.annotate shown).annotatedGraph shown).title =
      (problem.annotatedGraph shown).title := by
  let title :=
    if problem.graph.title = [] then problem.name else problem.graph.title
  change (if title = [] then problem.name else title) = title
  by_cases htitle : problem.graph.title = []
  · simp [title, htitle]
  · simp [title, htitle]

theorem attributes_annotate :
    ((problem.annotate shown).annotatedGraph shown).attributes =
      (problem.annotatedGraph shown).attributes := by
  apply Table.ext
  intro key
  have hnoted : (problem.annotate shown).graph.attributes.get? key = _ :=
    problem.get?_annotatedGraph shown key
  rw [get?_annotatedGraph, hnoted, get?_annotatedGraph]
  split <;> rfl

theorem nodes_annotate : ((problem.annotate shown).annotatedGraph shown).nodes =
    (problem.annotatedGraph shown).nodes := by
  apply List.ext_getElem?
  intro index
  have hnoted : (problem.annotate shown).graph.nodes[index]? = _ :=
    problem.getElem?_annotatedGraph shown index
  rw [getElem?_annotatedGraph, hnoted, getElem?_annotatedGraph, Option.map_map]
  cases problem.graph.nodes[index]? with
  | none => rfl
  | some node =>
      have hattributes : (problem.annotate shown).annotateNode shown index
          { node with attributes := problem.annotateNode shown index node } =
            problem.annotateNode shown index node := by
        apply Table.ext
        intro key
        rw [get?_annotateNode, note?_annotate, get?_annotateNode]
        split <;> rfl
      exact congrArg (fun attributes => some { node with attributes })
        hattributes

/-- Annotating again changes nothing: what it records does not depend on the
attributes. -/
theorem annotate_annotate :
    (problem.annotate shown).annotate shown = problem.annotate shown := by
  have hgraph : (problem.annotate shown).annotatedGraph shown =
      problem.annotatedGraph shown :=
    Graph.ext rfl (problem.title_annotate shown)
      (problem.attributes_annotate shown) (problem.nodes_annotate shown) rfl
  exact congrArg (fun graph => { problem with graph }) hgraph

/-! ### The rest of the graph -/

/-- A graph that differs from another at most in its title and in the attributes
that annotating writes. -/
structure KeepsRest (shown : Option System) (noted graph : Graph) : Prop where
  ident : noted.ident = graph.ident
  edges : noted.edges = graph.edges
  size : noted.size = graph.size
  attributes : ∀ key ∉ graphKeys,
    noted.attributes.get? key = graph.attributes.get? key
  nodes : ∀ (index : Nat) (node : Node), graph.nodes[index]? = some node →
    ∃ twin : Node, noted.nodes[index]? = some twin ∧ twin.name = node.name ∧
      twin.label = node.label ∧
      ∀ key ∉ noteKeys shown,
        twin.attributes.get? key = node.attributes.get? key

/-- Annotating a graph changes nothing but the notes. -/
theorem keepsRest_annotatedGraph :
    KeepsRest shown (problem.annotatedGraph shown) problem.graph where
  ident := rfl
  edges := rfl
  size := problem.size_annotatedGraph shown
  attributes key hkey := by rw [get?_annotatedGraph, if_neg hkey]
  nodes index node hnode := by
    refine ⟨{ node with attributes := problem.annotateNode shown index node },
      ?_, rfl, rfl, ?_⟩
    · rw [getElem?_annotatedGraph, hnode, Option.map_some]
    · intro key hkey
      rw [get?_annotateNode, if_neg hkey]

end Annotate

/-- A problem that has a system comes back from the graph that it annotates: its
name, unless the graph has a title of its own, its elements in order, its
initial value and direction, and at every node the same sets.  Annotating keeps
all else in the graph, and annotating again changes nothing. -/
theorem ofGraph_annotate (ident : Nat) (problem : Problem)
    (shown : Option System) {system : System}
    (hsystem : problem.system = .ok system)
    (hdirection : problem.direction = .forward ∨
      problem.direction = .backward) :
    (∃ copy again, ofGraph ident (problem.annotate shown).graph = .ok copy ∧
      copy.system = .ok again ∧ copy.graph = (problem.annotate shown).graph ∧
      copy.name =
        (if problem.graph.title =
          [] then problem.name else problem.graph.title) ∧
      copy.facts.elements = problem.facts.elements ∧
      copy.initial = problem.initial ∧
      copy.direction = problem.direction ∧
      ∀ site ∈ problem.graph.sites, SameMembers again system site site) ∧
    KeepsRest shown (problem.annotate shown).graph problem.graph ∧
    (problem.annotate shown).annotate shown = problem.annotate shown := by
  have hrecords := problem.records_annotatedGraph shown
  obtain ⟨copy, again, hcopy, hagain, hname, hgraph, helements, hinitial,
      hdirection, hsets⟩ :=
    hrecords.exists_ofGraph ident hsystem hdirection
  refine ⟨⟨copy, again, hcopy, hagain, hgraph, hname, helements, hinitial,
      hdirection, ?_⟩,
    problem.keepsRest_annotatedGraph shown, problem.annotate_annotate shown⟩
  intro site hsite
  obtain ⟨index, hindex, rfl⟩ := List.mem_map.mp hsite
  have hsame :=
    hsets index (by rw [size_annotatedGraph]; exact List.mem_range.mp hindex)
  rwa [site_annotatedGraph] at hsame

/-- The graph has no title and carries stale notes, and one of its nodes lists
nothing. -/
def stale : Problem where
  name := "p"
  graph := {
    ident := 0
    attributes := Table.ofList [("universe", "z"), ("rankdir", "LR")]
    nodes :=
      [{ name := "a", label := "a", attributes := Table.ofList [("gen", "z")] },
        { name := "a", label := "" }]
    edges := [{ source := 0, target := 1 }, { source := 1, target := 1 }]
    ends_lt := by simp
    labels_distinct := by decide +kernel }
  facts := ⟨1, ["x \"y\"", "\\"], by decide⟩
  initial := .full
  direction := .backward
  gen := Table.ofList [(⟨0, 0, "a"⟩, []), (⟨0, 1, "a"⟩, ["\\", "\\"])]

theorem ofGraph_annotate_stale :
    ∃ system, stale.system = .ok system ∧ stale.direction = .backward ∧
      ∃ copy again, ofGraph 2 (stale.annotate (some system)).graph = .ok copy ∧
        copy.system = .ok again ∧ copy.name = "p" ∧
        copy.facts.elements = ["x \"y\"", "\\"] ∧
        ∀ site ∈ stale.graph.sites, SameMembers again system site site := by
  have hlistable : ∀ element ∈ stale.facts.elements,
      Elements.isListable element = true := by decide +kernel
  have hinside : ∀ site ∈ stale.graph.sites,
      (∀ element ∈ listAt stale.gen site, element ∈ stale.facts.elements) ∧
        ∀ element ∈ listAt stale.kill site, element ∈ stale.facts.elements := by
    decide +kernel
  obtain ⟨system, hsystem⟩ := stale.exists_system_iff.mpr ⟨hlistable, hinside⟩
  obtain ⟨⟨copy, again, hcopy, hagain, -, hname, helements, -, -, hsets⟩, -⟩ :=
    ofGraph_annotate 2 stale (some system) hsystem (.inr rfl)
  exact ⟨system, hsystem, rfl, copy, again, hcopy, hagain, hname, helements,
    hsets⟩

end Problem

end GenKill
