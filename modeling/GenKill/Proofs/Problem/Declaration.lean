import GenKill.Problem.Declaration
import GenKill.Proofs.Graph.Growth
import GenKill.Proofs.Problem.Annotation
import GenKill.Proofs.Problem.Refusal

/-!
# Which declarations make a problem

A declaration has to meet seven conditions, which are checked in a fixed order.
It makes a problem exactly if it meets them all, and then the problem is what it
declares.  Otherwise the error belongs to the first condition that is not met,
and names the first culprit.
-/

namespace GenKill

/-- The nodes of a graph, item by item of a list that has an item for each of
them. -/
theorem Graph.forall₂_sites {α : Type} (graph : Graph) {items : List α}
    (hsize : graph.size = items.length) :
    List.Forall₂
      (fun site item =>
        ∃ index, site = graph.site index ∧ items[index]? = some item)
      graph.sites items := by
  rw [List.forall₂_iff_get]
  refine ⟨?_, fun index hsite hitem => ⟨index, ?_, ?_⟩⟩
  · rw [sites, List.length_map, List.length_range, hsize]
  · simp [sites]
  · exact List.getElem?_eq_getElem hitem

namespace Declaration

/-- What a declaration has to meet. -/
inductive Condition where
  | distinctElements
  | initial
  | direction
  | distinctLabels
  | ends
  | listable
  | inside

/-- The conditions in the order in which they are checked. -/
def Condition.order : List Condition :=
  [.distinctElements, .initial, .direction, .distinctLabels, .ends, .listable,
   .inside]

def DistinctLabels (nodes : List Node) : Prop :=
  nodes.Pairwise fun left right => left.label = right.label → left.label = []

/-- An element that is not empty and has neither a comma in it nor blanks around
it. -/
def Listable (element : Text) : Prop :=
  element ≠ [] ∧ Text.byte ',' ∉ element ∧ element.trim = element

theorem isListable_eq_true (element : Text) :
    (Elements.isListable element = true) = Listable element :=
  propext decide_eq_true_iff

variable (declaration : Declaration)

/-- The label belongs to a node, wherever that is declared. -/
def HasLabel (label : Text) : Prop :=
  label ≠ [] ∧ ∃ node ∈ declaration.nodes, node.label = label

def Ties (edge : Edge) : Prop :=
  declaration.HasLabel edge.source ∧ declaration.HasLabel edge.target

def Inside (node : Node) : Prop :=
  (∀ element ∈ node.gen.getD [], element ∈ declaration.elements) ∧
    ∀ element ∈ node.kill.getD [], element ∈ declaration.elements

def Meets : Condition → Prop
  | .distinctElements => declaration.elements.Nodup
  | .initial => ∃ initial, Initial.ofText declaration.initial = .ok initial
  | .direction =>
      declaration.direction = [] ∨
        ∃ direction, Direction.ofText declaration.direction = .ok direction
  | .distinctLabels => DistinctLabels declaration.nodes
  | .ends => ∀ edge ∈ declaration.edges, declaration.Ties edge
  | .listable => ∀ element ∈ declaration.elements, Listable element
  | .inside => ∀ node ∈ declaration.nodes, declaration.Inside node

/-- The context of a failure at a node. -/
def Node.place (node : Node) (property : Text) : Text :=
  property ++ " set of node " ++ node.shownName.quote

/-- The first label that is given again. -/
def FirstAgain (nodes : List Node) (label : Text) : Prop :=
  ∃ before node after, nodes = before ++ node :: after ∧ DistinctLabels before ∧
    node.label = label ∧ label ≠ [] ∧ ∃ earlier ∈ before, earlier.label = label

/-- The first end of an edge that is no label of a node. -/
def Misses (edge : Edge) (label : Text) : Prop :=
  ¬ declaration.HasLabel label ∧
    (label = edge.source ∨
      declaration.HasLabel edge.source ∧ label = edge.target)

/-- The error names the first element outside of the universe that a node lists,
in its gen list if there is one, and else in its kill list. -/
def Blames (node : Node) (error : Error) : Prop :=
  (∃ element,
    FirstFailing (· ∈ declaration.elements) (node.gen.getD []) element ∧
      error = .within (node.place "gen") (.elementOutside element)) ∨
    (∀ element ∈ node.gen.getD [], element ∈ declaration.elements) ∧
      ∃ element,
        FirstFailing (· ∈ declaration.elements) (node.kill.getD []) element ∧
          error = .within (node.place "kill") (.elementOutside element)

/-- The error that a condition which is not met leads to. -/
def Reports (error : Error) : Condition → Prop
  | .distinctElements =>
      ∃ element,
        FirstRepeated declaration.elements element ∧
          error = .duplicateElement element
  | .initial => error = .invalidInitial declaration.initial
  | .direction => error = .invalidDirection declaration.direction
  | .distinctLabels =>
      ∃ label,
        FirstAgain declaration.nodes label ∧ error = .duplicateLabel label
  | .ends =>
      ∃ edge label, FirstFailing declaration.Ties declaration.edges edge ∧
        declaration.Misses edge label ∧ error = .unknownLabel label
  | .listable =>
      ∃ element,
        FirstFailing Listable declaration.elements element ∧
          error = .invalidElement element
  | .inside => ∃ node, FirstFailing declaration.Inside declaration.nodes node ∧
      declaration.Blames node error

/-! ### The declared graph -/

/-- The node that a block declares, called by its label if it has no name. -/
def Node.described (block : Node) : GenKill.Node where
  name := if block.name = [] then block.label else block.name
  label := block.label

/-- An edge leads from the node with one label to the node with the other. -/
structure Joins (block : Edge) (edge : GenKill.Edge) : Prop where
  source : ∃ node,
    declaration.nodes[edge.source]? = some node ∧ node.label = block.source
  target : ∃ node,
    declaration.nodes[edge.target]? = some node ∧ node.label = block.target
  attributes : edge.attributes = .empty

/-- The graph has a node for each node block and an edge for each edge block, in
order. -/
structure Draws (ident : Nat) (graph : Graph) : Prop where
  ident : graph.ident = ident
  title : graph.title = declaration.name
  nodes : graph.nodes = declaration.nodes.map Node.described
  edges : List.Forall₂ declaration.Joins declaration.edges graph.edges

theorem map_bare_entry (nodes : List Node) :
    (nodes.map Node.entry).map GenKill.Node.bare =
      nodes.map Node.described := by
  rw [List.map_map]
  rfl

theorem labelsDistinct_described_iff (nodes : List Node) :
    LabelsDistinct (nodes.map Node.described) ↔ DistinctLabels nodes := by
  rw [LabelsDistinct, List.pairwise_map]
  rfl

/-- The first label that the graph refuses is the first that is declared again.
-/
theorem firstAgain_of_firstRepeat {nodes : List Node} {label : Text}
    (hrepeat : Graph.FirstRepeat [] (nodes.map Node.entry) label) :
    FirstAgain nodes label := by
  obtain ⟨hlabel, before, name, after, hsplit, hdistinct, earlier, hearlier,
    heq⟩ := hrepeat
  obtain ⟨first, rest, rfl, rfl, hrest⟩ := List.map_eq_append_iff.mp hsplit
  obtain ⟨node, last, rfl, hnode, -⟩ := List.map_eq_cons_iff.mp hrest
  cases hnode
  rw [List.nil_append, map_bare_entry] at hdistinct hearlier
  obtain ⟨block, hblock, rfl⟩ := List.mem_map.mp hearlier
  exact ⟨first, node, last, rfl,
    (labelsDistinct_described_iff first).mp hdistinct, rfl, hlabel, block,
    hblock, heq⟩

theorem FirstAgain.not_distinct {nodes : List Node} {label : Text}
    (hagain : FirstAgain nodes label) : ¬ DistinctLabels nodes := by
  obtain ⟨before, node, after, rfl, -, rfl, hlabel, earlier, hearlier, heq⟩ :=
    hagain
  intro hdistinct
  have hpair :=
    (List.pairwise_append.mp hdistinct).2.2 earlier hearlier node
      List.mem_cons_self heq
  exact hlabel (heq ▸ hpair)

section Graph

variable {declaration : Declaration} {graph : Graph} {ident : Nat}
  {error : Error}

theorem isSome_find?_iff_hasLabel
    (hnodes : graph.nodes = declaration.nodes.map Node.described)
    (label : Text) :
    (graph.find? label).isSome = true ↔ declaration.HasLabel label := by
  rw [Graph.isSome_find?_iff, hnodes, HasLabel]
  simp only [List.mem_map, exists_exists_and_eq_and]
  rfl

/-- The graph knows the ends of the edges that tie declared nodes. -/
theorem knows_iff_ties
    (hnodes : graph.nodes = declaration.nodes.map Node.described)
    (edge : Edge) : graph.Knows edge.ends ↔ declaration.Ties edge := by
  rw [Graph.Knows, isSome_find?_iff_hasLabel hnodes,
    isSome_find?_iff_hasLabel hnodes]
  rfl

theorem misses_of_misses
    (hnodes : graph.nodes = declaration.nodes.map Node.described) {edge : Edge}
    {label : Text} (hmisses : graph.Misses edge.ends label) :
    declaration.Misses edge label := by
  obtain ⟨hnone, hlabel⟩ := hmisses
  rw [isSome_find?_iff_hasLabel hnodes] at hlabel
  refine ⟨fun hhas => ?_, hlabel⟩
  rw [← isSome_find?_iff_hasLabel hnodes, hnone] at hhas
  cases hhas

theorem exists_node_of_find?
    (hnodes : graph.nodes = declaration.nodes.map Node.described) {label : Text}
    {index : Nat} (hfind : graph.find? label = some index) :
    ∃ node, declaration.nodes[index]? = some node ∧ node.label = label := by
  obtain ⟨-, node, hnode, hlabel⟩ := Graph.find?_eq_some_iff.mp hfind
  rw [hnodes, List.getElem?_map] at hnode
  obtain ⟨block, hblock, rfl⟩ := Option.map_eq_some_iff.mp hnode
  exact ⟨block, hblock, hlabel⟩

theorem nodes_of_addNodes
    (hadd :
        (Graph.empty ident declaration.name).addNodes
          (declaration.nodes.map Node.entry) =
      .ok graph) :
    Graph.Grown (Graph.empty ident declaration.name)
      (declaration.nodes.map Node.described) []
      graph := by
  rw [← map_bare_entry]
  exact Graph.grown_addNodes hadd

/-- A graph that is accepted is the one that is declared. -/
theorem draws_of_graph (hgraph : declaration.graph ident = .ok graph) :
    declaration.Meets .distinctLabels ∧ declaration.Meets .ends ∧
      declaration.Draws ident graph := by
  rw [Declaration.graph] at hgraph
  split at hgraph
  · cases hgraph
  · rename_i start hstart
    have hgrown := nodes_of_addNodes hstart
    have hnodes : start.nodes = declaration.nodes.map Node.described :=
      hgrown.nodes
    obtain ⟨edges, hmore, hjoins⟩ := Graph.exists_edges_of_addEdges hgraph
    rw [List.forall₂_map_left_iff] at hjoins
    have hedges : graph.edges = edges := by
      rw [hmore.edges, hgrown.edges]
      rfl
    refine ⟨?_, ?_, ?_⟩
    · rw [Meets, ← labelsDistinct_described_iff, ← hnodes]
      exact start.labels_distinct
    · intro edge hedge
      rw [← knows_iff_ties hnodes]
      exact (start.exists_addEdges_iff _).mp ⟨graph, hgraph⟩ _
        (List.mem_map_of_mem hedge)
    · refine ⟨hmore.ident.trans hgrown.ident,
        hmore.frame.title.trans hgrown.frame.title, ?_, ?_⟩
      · rw [hmore.nodes, hnodes, List.append_nil]
      · rw [hedges]
        exact hjoins.imp fun block edge h =>
          ⟨exists_node_of_find? hnodes h.source,
            exists_node_of_find? hnodes h.target, h.attributes⟩

/-- A graph is refused for the labels of its nodes, or else for the ends of its
edges. -/
theorem graph_eq_error (hgraph : declaration.graph ident = .error error) :
    ¬ declaration.Meets .distinctLabels ∧
      declaration.Reports error .distinctLabels ∨
        declaration.Meets .distinctLabels ∧ ¬ declaration.Meets .ends ∧
          declaration.Reports error .ends := by
  rw [Declaration.graph] at hgraph
  split at hgraph
  · rename_i refusal hrefused
    cases hgraph
    obtain ⟨label, hrepeat, rfl⟩ := Graph.addNodes_eq_error hrefused
    have hagain := firstAgain_of_firstRepeat hrepeat
    exact .inl ⟨hagain.not_distinct, label, hagain, rfl⟩
  · rename_i start hstart
    have hnodes : start.nodes = declaration.nodes.map Node.described :=
      (nodes_of_addNodes hstart).nodes
    obtain ⟨pair, label, hfirst, hmisses, rfl⟩ := Graph.addEdges_eq_error hgraph
    have hpairs : List.Forall₂ (fun pair edge => pair = edge.ends)
        (declaration.edges.map Edge.ends) declaration.edges :=
      List.forall₂_map_left_iff.mpr (List.forall₂_same.mpr fun _ _ => rfl)
    obtain ⟨edge, rfl, huntied⟩ := hfirst.of_forall₂ hpairs fun pair edge heq =>
      heq ▸ knows_iff_ties hnodes edge
    refine .inr ⟨?_, huntied.not_forall, edge, label, huntied,
      misses_of_misses hnodes hmisses, rfl⟩
    rw [Meets, ← labelsDistinct_described_iff, ← hnodes]
    exact start.labels_distinct

end Graph

/-! ### The declared problem -/

/-- What a declaration says, before anything is checked. -/
def draft (graphIdent : Nat) : Draft where
  name := declaration.name
  elements := declaration.elements
  initial := declaration.initial
  direction := declaration.declaredDirection
  graph := declaration.graph graphIdent
  gen := (lists · Node.gen declaration.nodes)
  kill := (lists · Node.kill declaration.nodes)

theorem problem_eq_draft (graphIdent factsIdent : Nat) :
    declaration.problem graphIdent factsIdent =
      (declaration.draft graphIdent).problem factsIdent :=
  rfl

/-- The problem is what the declaration says. -/
structure Describes (graphIdent : Nat) (problem : Problem) : Prop where
  name : problem.name = declaration.name
  elements : problem.facts.elements = declaration.elements
  initial : Initial.ofText declaration.initial = .ok problem.initial
  direction : declaration.declaredDirection = .ok problem.direction
  graph : declaration.Draws graphIdent problem.graph
  system : ∃ system, problem.system = .ok system ∧
    ∀ index node, declaration.nodes[index]? = some node →
      (system.gen.get (problem.graph.site index)).Lists problem.facts
          (node.gen.getD []) ∧
        (system.kill.get (problem.graph.site index)).Lists problem.facts
          (node.kill.getD [])

theorem listAt_lists (graph : Graph) (list : Node → Option (List Text))
    {nodes : List Node} {index : Nat} {node : Node}
    (hnode : nodes[index]? = some node) :
    Problem.listAt (lists graph list nodes) (graph.site index) =
      (list node).getD [] := by
  rw [Problem.listAt, lists, Graph.get?_ofList_sites, hnode, Option.bind_some]

section Problem

variable {declaration : Declaration} {graphIdent : Nat} {problem : Problem}
  {error : Error}

theorem meets_direction_iff :
    declaration.Meets .direction ↔
      ∃ direction, declaration.declaredDirection = .ok direction := by
  rw [Meets, declaredDirection]
  split
  · rename_i hempty
    exact iff_of_true (.inl hempty) ⟨_, rfl⟩
  · rename_i hgiven
    rw [or_iff_right hgiven]

theorem reports_of_declaredDirection
    (hdirection : declaration.declaredDirection = .error error) :
    declaration.Reports error .direction := by
  rw [declaredDirection] at hdirection
  split at hdirection
  · cases hdirection
  · exact Direction.ofText_eq_error hdirection

theorem firstFailing_listable {element : Text}
    (hfirst :
      FirstFailing (Elements.isListable · = true) declaration.elements
        element) :
    FirstFailing Listable declaration.elements element := by
  simpa only [isListable_eq_true] using hfirst

section Makes

variable (hmakes : (declaration.draft graphIdent).Makes problem)

include hmakes

/-- Nothing but the elements is left to check. -/
theorem meets_of_makes :
    declaration.Meets .distinctElements ∧ declaration.Meets .initial ∧
      declaration.Meets .direction ∧ declaration.Meets .distinctLabels ∧
      declaration.Meets .ends := by
  obtain ⟨hlabels, hends, -⟩ := draws_of_graph hmakes.graph
  refine ⟨?_, ⟨_, hmakes.initial⟩,
    meets_direction_iff.mpr ⟨_, hmakes.direction⟩, hlabels, hends⟩
  have helements : problem.facts.elements = declaration.elements :=
    hmakes.elements
  rw [Meets, ← helements]
  exact problem.facts.nodup

theorem size_of_makes : problem.graph.size = declaration.nodes.length := by
  obtain ⟨-, -, hdraws⟩ := draws_of_graph hmakes.graph
  rw [Graph.size, hdraws.nodes, List.length_map]

theorem listAt_of_makes {index : Nat} {node : Node}
    (hnode : declaration.nodes[index]? = some node) :
    Problem.listAt problem.gen (problem.graph.site index) = node.gen.getD [] ∧
      Problem.listAt problem.kill (problem.graph.site index) =
        node.kill.getD [] := by
  rw [hmakes.gen, hmakes.kill]
  exact ⟨listAt_lists problem.graph Node.gen hnode,
    listAt_lists problem.graph Node.kill hnode⟩

theorem name_of_makes {index : Nat} {node : Node}
    (hnode : declaration.nodes[index]? = some node) :
    (problem.graph.site index).name = node.shownName := by
  obtain ⟨-, -, hdraws⟩ := draws_of_graph hmakes.graph
  rw [Graph.site, hdraws.nodes, List.getElem?_map, hnode]
  rfl

/-- The lists of a node lie inside the universe exactly if its block lists
declared elements. -/
theorem inside_iff_of_makes {index : Nat} {node : Node}
    (hnode : declaration.nodes[index]? = some node) :
    problem.Inside (problem.graph.site index) ↔ declaration.Inside node := by
  obtain ⟨hgen, hkill⟩ := listAt_of_makes hmakes hnode
  rw [Problem.Inside, hgen, hkill, hmakes.elements]
  rfl

theorem blames_of_makes {index : Nat} {node : Node}
    (hnode : declaration.nodes[index]? = some node)
    (hblames : problem.Blames (problem.graph.site index) error) :
    declaration.Blames node error := by
  obtain ⟨hgen, hkill⟩ := listAt_of_makes hmakes hnode
  rw [Problem.Blames, System.place, System.place, name_of_makes hmakes hnode,
    hgen, hkill, hmakes.elements] at hblames
  exact hblames

theorem reports_of_makes {site : Site}
    (hfirst : FirstFailing problem.Inside problem.graph.sites site)
    (hblames : problem.Blames site error) :
    ¬ declaration.Meets .inside ∧ declaration.Reports error .inside := by
  have hsites := problem.graph.forall₂_sites (size_of_makes hmakes)
  obtain ⟨node, ⟨index, rfl, hnode⟩, houtside⟩ := hfirst.of_forall₂ hsites
    (by
      rintro _ node ⟨index, rfl, hnode⟩
      exact inside_iff_of_makes hmakes hnode)
  exact ⟨houtside.not_forall, node, houtside,
    blames_of_makes hmakes hnode hblames⟩

variable {system : System} (hsystem : problem.system = .ok system)

include hsystem

/-- A declaration whose problem can be set up meets every condition. -/
theorem meets_of_system (condition : Condition) :
    declaration.Meets condition := by
  obtain ⟨helements, hinitial, hdirection, hlabels, hends⟩ :=
    meets_of_makes hmakes
  obtain ⟨hlistable, hinside⟩ := problem.exists_system_iff.mp ⟨system, hsystem⟩
  cases condition with
  | distinctElements => exact helements
  | initial => exact hinitial
  | direction => exact hdirection
  | distinctLabels => exact hlabels
  | ends => exact hends
  | listable =>
      intro element hmem
      rw [← isListable_eq_true]
      exact hlistable element (hmakes.elements ▸ hmem)
  | inside =>
      intro node hmem
      obtain ⟨index, hnode⟩ := List.mem_iff_getElem?.mp hmem
      have hindex := (List.getElem?_eq_some_iff.mp hnode).1
      rw [← inside_iff_of_makes hmakes hnode]
      exact hinside _
        (Problem.site_mem_sites ((size_of_makes hmakes).symm ▸ hindex))

/-- That problem is the one that is declared. -/
theorem describes_of_system : declaration.Describes graphIdent problem where
  name := hmakes.name
  elements := hmakes.elements
  initial := hmakes.initial
  direction := hmakes.direction
  graph := (draws_of_graph hmakes.graph).2.2
  system := by
    refine ⟨system, hsystem, fun index node hnode => ?_⟩
    have hindex := (List.getElem?_eq_some_iff.mp hnode).1
    obtain ⟨hgen, hkill⟩ := listAt_of_makes hmakes hnode
    rw [← hgen, ← hkill]
    exact Problem.lists_of_system hsystem
      (Problem.site_mem_sites ((size_of_makes hmakes).symm ▸ hindex))

end Makes

end Problem

/-- A declaration makes the problem that it describes, or the first condition
that it does not meet is reported. -/
theorem problem_cases (graphIdent factsIdent : Nat) :
    (∃ problem, declaration.problem graphIdent factsIdent = .ok problem ∧
        (∀ condition, declaration.Meets condition) ∧
        declaration.Describes graphIdent problem) ∨
      ∃ error condition,
        declaration.problem graphIdent factsIdent = .error error ∧
          FirstFailing declaration.Meets Condition.order condition ∧
          declaration.Reports error condition := by
  have houtcome := (declaration.draft graphIdent).outcome factsIdent
  rw [← problem_eq_draft] at houtcome
  cases hresult : declaration.problem graphIdent factsIdent with
  | ok problem =>
      rw [hresult] at houtcome
      cases houtcome with
      | made hmakes hsystem =>
          exact .inl ⟨problem, rfl, meets_of_system hmakes hsystem,
            describes_of_system hmakes hsystem⟩
  | error error =>
      rw [hresult] at houtcome
      refine .inr ⟨error, ?_⟩
      cases houtcome with
      | repeated hrepeated =>
          exact ⟨.distinctElements, rfl, .head hrepeated.not_nodup, _,
            hrepeated, rfl⟩
      | initial hnodup hinitial =>
          exact ⟨.initial, rfl, .cons hnodup (.head hinitial), rfl⟩
      | direction hnodup hinitial hdirection =>
          have hrefused :=
            mt meets_direction_iff.mp (not_exists_of_eq_error hdirection)
          exact ⟨.direction, rfl,
            .cons hnodup (.cons hinitial (.head hrefused)),
            reports_of_declaredDirection hdirection⟩
      | graph hnodup hinitial hdirection hgraph =>
          have haccepted := meets_direction_iff.mpr hdirection
          rcases graph_eq_error hgraph with
            ⟨hlabels, hreports⟩ | ⟨hlabels, hends, hreports⟩
          · exact ⟨.distinctLabels, rfl,
              .cons hnodup (.cons hinitial (.cons haccepted (.head hlabels))),
              hreports⟩
          · exact ⟨.ends, rfl,
              .cons hnodup
                (.cons hinitial
                  (.cons haccepted (.cons hlabels (.head hends)))),
              hreports⟩
      | unlistable hmakes hfirst =>
          obtain ⟨helements, hinitial, hdirection, hlabels, hends⟩ :=
            meets_of_makes hmakes
          have hlater := firstFailing_listable hfirst
          exact ⟨.listable, rfl,
            .cons helements (.cons hinitial (.cons hdirection (.cons hlabels
              (.cons hends (.head hlater.not_forall))))), _, hlater, rfl⟩
      | outside hmakes hlistable hfirst hblames =>
          obtain ⟨helements, hinitial, hdirection, hlabels, hends⟩ :=
            meets_of_makes hmakes
          obtain ⟨hinside, hreports⟩ := reports_of_makes hmakes hfirst hblames
          simp only [isListable_eq_true] at hlistable
          exact ⟨.inside, rfl,
            .cons helements (.cons hinitial (.cons hdirection (.cons hlabels
              (.cons hends (.cons hlistable (.head hinside)))))), hreports⟩

/-- A declaration makes a problem exactly if it meets all conditions.  Else the
error is that of the first condition that it does not meet.  The problem has the
declared nodes and edges in order, and a system that gives each node its
declared sets. -/
theorem problem_exact (graphIdent factsIdent : Nat) :
    ((∃ problem, declaration.problem graphIdent factsIdent = .ok problem) ↔
        ∀ condition, declaration.Meets condition) ∧
      (∀ condition, FirstFailing declaration.Meets Condition.order condition →
        ∃ error, declaration.problem graphIdent factsIdent = .error error ∧
          declaration.Reports error condition) ∧
      ∀ problem, declaration.problem graphIdent factsIdent = .ok problem →
        declaration.Describes graphIdent problem := by
  rcases declaration.problem_cases graphIdent factsIdent with
    ⟨problem, hresult, hmeets, hdescribes⟩ |
    ⟨error, condition, hresult, hfirst, hreports⟩
  · rw [hresult]
    refine ⟨iff_of_true ⟨problem, rfl⟩ hmeets, fun condition hfirst => ?_,
      fun other hother => ?_⟩
    · exact absurd (hmeets condition) hfirst.fails
    · cases hother
      exact hdescribes
  · rw [hresult]
    refine ⟨iff_of_false ?_ ?_, fun other hother => ?_,
      fun problem hproblem => ?_⟩
    · exact not_exists_of_eq_error rfl
    · exact fun hall => hfirst.fails (hall condition)
    · exact ⟨error, rfl, hfirst.unique hother ▸ hreports⟩
    · cases hproblem

/-- A loop whose entry has no label, with parallel edges. -/
def looping : Declaration where
  name := "looping"
  elements := ["x", "y"]
  initial := "Universe"
  direction := "bwd"
  nodes := [
    { label := "", gen := some ["x", "x"] },
    { label := "head", kill := some ["y", "x"] },
    { label := "body", name := "x = x + 1", gen := some [], kill := none }]
  edges :=
    [⟨"head", "body"⟩, ⟨"body", "head"⟩, ⟨"head", "body"⟩, ⟨"body", "body"⟩]

/-- An edge to a node that is not declared, elements that cannot be listed, and
one outside. -/
def dangling : Declaration where
  elements := ["x", "", " y"]
  nodes := [{ label := "head", gen := some ["z"] }]
  edges := [⟨"head", "head"⟩, ⟨"head", "body"⟩]

theorem problem_exact_looping :
    (∃ problem,
      looping.problem 0 1 = .ok problem ∧ looping.Describes 0 problem ∧
        problem.graph.edges.map (fun edge => (edge.source, edge.target)) =
          [(1, 2), (2, 1), (1, 2), (2, 2)]) ∧
    FirstFailing dangling.Meets Condition.order .ends ∧
      ∃ error,
        dangling.problem 0 1 = .error error ∧ dangling.Reports error .ends := by
  obtain ⟨problem, hresult, hedges⟩ := exists_ok_of_any (looping.problem 0 1)
    (fun problem =>
      problem.graph.edges.map (fun edge => (edge.source, edge.target)) =
        [(1, 2), (2, 1), (1, 2), (2, 2)]) (by decide +kernel)
  have helements : dangling.Meets .distinctElements := by
    rw [Meets]
    decide
  have hlabels : dangling.Meets .distinctLabels := List.pairwise_singleton _ _
  have hends : ¬ dangling.Meets .ends := by
    intro hties
    obtain ⟨-, node, hnode, hlabel⟩ :=
      (hties ⟨"head", "body"⟩ (List.mem_cons_of_mem _ List.mem_cons_self)).2
    cases List.mem_singleton.mp hnode
    exact absurd hlabel (by decide)
  have hfirst : FirstFailing dangling.Meets Condition.order .ends :=
    .cons helements (.cons ⟨.empty, Initial.ofText_nil⟩
      (.cons (.inl rfl) (.cons hlabels (.head hends))))
  exact ⟨⟨problem, hresult, (looping.problem_exact 0 1).2.2 problem hresult,
      hedges⟩, hfirst,
    (dangling.problem_exact 0 1).2.1 .ends hfirst⟩

end Declaration

end GenKill
