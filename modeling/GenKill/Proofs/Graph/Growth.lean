import GenKill.Proofs.Failure
import GenKill.Proofs.Graph

/-!
# Graphs built from lists

A graph is read by adding its nodes one after the other, and then its edges, the
ends of which are given by label.  A node is refused only because its label is
used, and an edge only because one of its ends is no label of a node.  The first
entry that is refused decides the error.
-/

namespace GenKill

def Node.bare (entry : Text × Text) : Node :=
  { name := entry.1, label := entry.2 }

namespace Graph

/-- A graph with further nodes and edges, which come behind its own. -/
structure Grown (graph : Graph) (nodes : List Node) (edges : List Edge)
    (result : Graph) : Prop where
  ident : result.ident = graph.ident
  frame : SameFrame result graph
  nodes : result.nodes = graph.nodes ++ nodes
  edges : result.edges = graph.edges ++ edges

theorem Grown.refl (graph : Graph) : Grown graph [] [] graph :=
  ⟨rfl, .refl graph, (List.append_nil _).symm, (List.append_nil _).symm⟩

theorem Grown.trans {first second third : Graph} {nodes nodes' : List Node}
    {edges edges' : List Edge} (hleft : Grown first nodes edges second)
    (hright : Grown second nodes' edges' third) :
    Grown first (nodes ++ nodes') (edges ++ edges') third where
  ident := hright.ident.trans hleft.ident
  frame := hright.frame.trans hleft.frame
  nodes := by rw [hright.nodes, hleft.nodes, List.append_assoc]
  edges := by rw [hright.edges, hleft.edges, List.append_assoc]

/-! ### Nodes -/

theorem grown_addNode {graph next : Graph} {entry : Text × Text}
    (hadd : graph.addNode entry.1 entry.2 = .ok next) :
    Grown graph [Node.bare entry] [] next := by
  obtain ⟨hframe, hedges, hnodes⟩ := addNode_eq_ok hadd
  exact ⟨ident_addNode hadd, hframe, hnodes,
    hedges.trans (List.append_nil _).symm⟩

/-- All nodes are added behind those of the graph, in the order of the list. -/
theorem grown_addNodes {graph result : Graph} {entries : List (Text × Text)}
    (hadd : graph.addNodes entries = .ok result) :
    Grown graph (entries.map Node.bare) [] result := by
  induction entries generalizing graph with
  | nil =>
      cases hadd
      exact .refl result
  | cons entry entries ih =>
      rw [addNodes] at hadd
      split at hadd
      · cases hadd
      · rename_i next hnext
        exact (grown_addNode hnext).trans (ih hadd)

/-- The label of an entry is used by a node before it, and no earlier entry has
such a label. -/
structure FirstRepeat (nodes : List Node) (entries : List (Text × Text))
    (label : Text) : Prop where
  ne_nil : label ≠ []
  exists_split : ∃ before name after,
    entries = before ++ (name, label) :: after ∧
      LabelsDistinct (nodes ++ before.map Node.bare) ∧
      ∃ node ∈ nodes ++ before.map Node.bare, node.label = label

theorem addNode_eq_error {graph : Graph} {name label : Text} {error : Error}
    (hadd : graph.addNode name label = .error error) :
    label ≠ [] ∧ (∃ node ∈ graph.nodes, node.label = label) ∧
      error = .duplicateLabel label := by
  rw [addNode] at hadd
  split at hadd
  · rename_i hused
    cases hadd
    exact ⟨hused.1, hused.2, rfl⟩
  · cases hadd

/-- Nodes are refused for the first label that is used again. -/
theorem addNodes_eq_error {graph : Graph} {entries : List (Text × Text)}
    {error : Error} (hadd : graph.addNodes entries = .error error) :
    ∃ label,
      FirstRepeat graph.nodes entries label ∧
        error = .duplicateLabel label := by
  induction entries generalizing graph with
  | nil => cases hadd
  | cons entry entries ih =>
      rw [addNodes] at hadd
      split at hadd
      · rename_i refusal hrefused
        cases hadd
        obtain ⟨hlabel, hused, rfl⟩ := addNode_eq_error hrefused
        refine ⟨entry.2, ⟨hlabel, [], entry.1, entries, rfl, ?_, ?_⟩, rfl⟩
        · rw [List.map_nil, List.append_nil]
          exact graph.labels_distinct
        · rwa [List.map_nil, List.append_nil]
      · rename_i next hnext
        obtain ⟨label, ⟨hlabel, before, name, after, rfl, hdistinct, hused⟩,
          rfl⟩ := ih hadd
        have hnodes : next.nodes ++ before.map Node.bare =
            graph.nodes ++ (entry :: before).map Node.bare := by
          rw [(grown_addNode hnext).nodes, List.append_assoc]
          rfl
        rw [hnodes] at hdistinct hused
        exact ⟨label,
          ⟨hlabel, entry :: before, name, after, rfl, hdistinct, hused⟩, rfl⟩

theorem FirstRepeat.not_distinct {nodes : List Node}
    {entries : List (Text × Text)} {label : Text}
    (hrepeat : FirstRepeat nodes entries label) :
    ¬ LabelsDistinct (nodes ++ entries.map Node.bare) := by
  obtain ⟨hlabel, before, name, after, rfl, -, node, hnode, heq⟩ := hrepeat
  intro hdistinct
  rw [List.map_append, ← List.append_assoc] at hdistinct
  have hpair :=
    (List.pairwise_append.mp hdistinct).2.2 node hnode (Node.bare (name, label))
      List.mem_cons_self heq
  exact hlabel (heq ▸ hpair)

/-- Nodes can be added exactly if all labels are distinct afterwards. -/
theorem exists_addNodes_iff (graph : Graph) (entries : List (Text × Text)) :
    (∃ result, graph.addNodes entries = .ok result) ↔
      LabelsDistinct (graph.nodes ++ entries.map Node.bare) := by
  constructor
  · rintro ⟨result, hadd⟩
    rw [← (grown_addNodes hadd).nodes]
    exact result.labels_distinct
  · intro hdistinct
    cases hadd : graph.addNodes entries with
    | ok result => exact ⟨result, rfl⟩
    | error error =>
        obtain ⟨label, hrepeat, -⟩ := addNodes_eq_error hadd
        exact absurd hdistinct hrepeat.not_distinct

/-! ### Edges -/

/-- An edge without attributes leads from the node with one label to the node
with the other. -/
structure Joins (graph : Graph) (ends : Text × Text) (edge : Edge) : Prop where
  source : graph.find? ends.1 = some edge.source
  target : graph.find? ends.2 = some edge.target
  attributes : edge.attributes = .empty

def Knows (graph : Graph) (ends : Text × Text) : Prop :=
  (graph.find? ends.1).isSome = true ∧ (graph.find? ends.2).isSome = true

/-- The label that no node has, the one at the source first. -/
def Misses (graph : Graph) (ends : Text × Text) (label : Text) : Prop :=
  graph.find? label = none ∧
    (label = ends.1 ∨ (graph.find? ends.1).isSome = true ∧ label = ends.2)

theorem Joins.knows {graph : Graph} {ends : Text × Text} {edge : Edge}
    (hjoins : graph.Joins ends edge) : graph.Knows ends := by
  rw [Knows, hjoins.source, hjoins.target]
  exact ⟨rfl, rfl⟩

theorem Misses.not_knows {graph : Graph} {ends : Text × Text} {label : Text}
    (hmisses : graph.Misses ends label) : ¬ graph.Knows ends := by
  rintro ⟨hsource, htarget⟩
  obtain ⟨hnone, rfl | ⟨-, rfl⟩⟩ := hmisses
  · rw [hnone] at hsource
    cases hsource
  · rw [hnone] at htarget
    cases htarget

theorem resolve_label_eq_error {graph : Graph} {label : Text} {error : Error}
    (hresolve : graph.resolve (.label label) = .error error) :
    graph.find? label = none ∧ error = .unknownLabel label := by
  rw [resolve] at hresolve
  split at hresolve
  · cases hresolve
  · rename_i hnone
    cases hresolve
    exact ⟨hnone, rfl⟩

/-- An edge between two labels is added, or the label of one end is unknown. -/
theorem addEdge_cases (graph : Graph) (ends : Text × Text) :
    (∃ next edge, graph.addEdge (.label ends.1) (.label ends.2) = .ok next ∧
        Grown graph [] [edge] next ∧ graph.Joins ends edge) ∨
      ∃ label,
        graph.addEdge (.label ends.1) (.label ends.2) =
            .error (.unknownLabel label) ∧
          graph.Misses ends label := by
  cases hsource : graph.resolve (.label ends.1) with
  | error error =>
      obtain ⟨hnone, rfl⟩ := resolve_label_eq_error hsource
      exact .inr ⟨ends.1, by rw [addEdge, hsource], hnone, .inl rfl⟩
  | ok source =>
      have hfound := resolve_label_eq_ok hsource
      cases htarget : graph.resolve (.label ends.2) with
      | error error =>
          obtain ⟨hnone, rfl⟩ := resolve_label_eq_error htarget
          refine .inr ⟨ends.2, by rw [addEdge, hsource]; simp only [htarget],
            hnone, .inr ⟨?_, rfl⟩⟩
          rw [hfound]
          rfl
      | ok target =>
          refine .inl ⟨_, { source, target }, exists_addEdge hsource htarget,
            ?_, ?_⟩
          · exact ⟨rfl, ⟨rfl, rfl⟩, (List.append_nil _).symm, rfl⟩
          · exact ⟨hfound, resolve_label_eq_ok htarget, rfl⟩

/-- New edges change nothing about labels. -/
theorem Grown.find?_eq {graph result : Graph} {edges : List Edge}
    (hgrown : Grown graph [] edges result) (label : Text) :
    result.find? label = graph.find? label := by
  rw [find?, find?, hgrown.nodes, List.append_nil]

/-- The edges that are added join the nodes with the given labels, in the order
of the list. -/
theorem exists_edges_of_addEdges {graph result : Graph}
    {ends : List (Text × Text)} (hadd : graph.addEdges ends = .ok result) :
    ∃ edges,
      Grown graph [] edges result ∧ List.Forall₂ graph.Joins ends edges := by
  induction ends generalizing graph with
  | nil =>
      cases hadd
      exact ⟨[], .refl result, .nil⟩
  | cons first rest ih =>
      rw [addEdges] at hadd
      rcases graph.addEdge_cases first with
        ⟨next, edge, hnext, hgrown, hjoins⟩ | ⟨_, herror, -⟩
      · rw [hnext] at hadd
        obtain ⟨edges, hrest, hall⟩ := ih hadd
        refine ⟨edge :: edges, hgrown.trans hrest, .cons hjoins (hall.imp ?_)⟩
        intro pair other hother
        exact ⟨hgrown.find?_eq pair.1 ▸ hother.source,
          hgrown.find?_eq pair.2 ▸ hother.target, hother.attributes⟩
      · rw [herror] at hadd
        cases hadd

/-- Edges are refused for the first of them that names a label which no node
has. -/
theorem addEdges_eq_error {graph : Graph} {ends : List (Text × Text)}
    {error : Error} (hadd : graph.addEdges ends = .error error) :
    ∃ pair label, FirstFailing graph.Knows ends pair ∧ graph.Misses pair label ∧
      error = .unknownLabel label := by
  induction ends generalizing graph with
  | nil => cases hadd
  | cons first rest ih =>
      rw [addEdges] at hadd
      rcases graph.addEdge_cases first with
        ⟨next, edge, hnext, hgrown, hjoins⟩ | ⟨label, herror, hmisses⟩
      · rw [hnext] at hadd
        obtain ⟨pair, label, hfirst, hmisses, rfl⟩ := ih hadd
        have hknows : next.Knows = graph.Knows := by
          funext pair
          rw [Knows, Knows, hgrown.find?_eq, hgrown.find?_eq]
        rw [hknows] at hfirst
        rw [Misses, hgrown.find?_eq, hgrown.find?_eq] at hmisses
        exact ⟨pair, label, hfirst.cons hjoins.knows, hmisses, rfl⟩
      · rw [herror] at hadd
        cases hadd
        exact ⟨first, label, .head hmisses.not_knows, hmisses, rfl⟩

/-- Edges can be added exactly if all labels at their ends are known. -/
theorem exists_addEdges_iff (graph : Graph) (ends : List (Text × Text)) :
    (∃ result, graph.addEdges ends = .ok result) ↔
      ∀ pair ∈ ends, graph.Knows pair := by
  constructor
  · rintro ⟨result, hadd⟩
    obtain ⟨edges, -, hall⟩ := exists_edges_of_addEdges hadd
    have hboth := hall.imp fun _ _ hjoins => And.intro hjoins.knows hjoins
    exact ((List.forall₂_and_left _ _).mp hboth).1
  · intro hknown
    cases hadd : graph.addEdges ends with
    | ok result => exact ⟨result, rfl⟩
    | error error =>
        obtain ⟨pair, label, hfirst, -, -⟩ := addEdges_eq_error hadd
        exact absurd hknown hfirst.not_forall

end Graph

end GenKill
