import GenKill.Graph
import Mathlib.Data.List.Basic

/-!
# Labels, and what operations on graphs do

A label that is not empty belongs to one node, so looking it up and reading it
off are inverse to each other.  An operation on a graph adds one node or one
edge at the end, or it is refused.
-/

namespace GenKill

theorem exists_getElem?_iff {α : Type} {items : List α} {p : α → Prop} :
    (∃ (index : Nat) (item : α), items[index]? = some item ∧ p item) ↔
      ∃ item ∈ items, p item := by
  constructor
  · rintro ⟨index, item, hitem, hp⟩
    exact ⟨item, List.mem_of_getElem? hitem, hp⟩
  · rintro ⟨item, hmem, hp⟩
    obtain ⟨index, hitem⟩ := List.mem_iff_getElem?.mp hmem
    exact ⟨index, item, hitem, hp⟩

namespace Graph

/-- Two graphs that differ only in their nodes and edges. -/
structure SameFrame (left right : Graph) : Prop where
  title : left.title = right.title
  attributes : left.attributes = right.attributes

theorem SameFrame.refl (graph : Graph) : SameFrame graph graph := ⟨rfl, rfl⟩

theorem SameFrame.trans {first second third : Graph}
    (hleft : SameFrame first second) (hright : SameFrame second third) :
    SameFrame first third :=
  ⟨hleft.title.trans hright.title, hleft.attributes.trans hright.attributes⟩

/-- A node that is accepted comes last, and nothing else changes. -/
theorem addNode_eq_ok {graph result : Graph} {name label : Text}
    (hadd : graph.addNode name label = .ok result) :
    SameFrame result graph ∧ result.edges = graph.edges ∧
      result.nodes = graph.nodes ++ [{ name := name, label := label }] := by
  rw [addNode] at hadd
  split at hadd
  · cases hadd
  · cases hadd
    exact ⟨⟨rfl, rfl⟩, rfl, rfl⟩

theorem ident_addNode {graph next : Graph} {name label : Text}
    (hadd : graph.addNode name label = .ok next) :
    next.ident = graph.ident := by
  rw [addNode] at hadd
  split at hadd
  · cases hadd
  · cases hadd
    rfl

theorem resolve_label_eq_ok {graph : Graph} {label : Text}
    {index : Fin graph.nodes.length}
    (hresolve : graph.resolve (.label label) = .ok index) :
    graph.find? label = some index := by
  rw [resolve] at hresolve
  split at hresolve
  · rename_i found hfind
    cases hresolve
    exact hfind
  · cases hresolve

theorem resolve_label (graph : Graph) (label : Text) :
    (graph.resolve (.label label)).map Fin.val = graph.find label := by
  rw [resolve, find]
  split <;> rename_i hfind <;> simp only [hfind] <;> rfl

/-- A label finds the node that has it. -/
theorem find?_label {graph : Graph} {index : Nat} {node : Node}
    (hnode : graph.nodes[index]? = some node) (hlabel : node.label ≠ []) :
    graph.find? node.label = some index := by
  obtain ⟨hindex, rfl⟩ := List.getElem?_eq_some_iff.mp hnode
  rw [find?, if_neg hlabel, List.findIdx?_eq_some_iff_getElem]
  refine ⟨hindex, by simp, fun earlier hearlier => ?_⟩
  have hdistinct :=
    List.pairwise_iff_getElem.mp graph.labels_distinct earlier index (by omega)
      hindex hearlier
  simp only [decide_eq_true_eq]
  intro heq
  exact hlabel (heq ▸ hdistinct heq)

/-- A label finds the node that has it; the empty label finds none. -/
theorem find?_eq_some_iff {graph : Graph} {label : Text} {index : Nat} :
    graph.find? label = some index ↔
      label ≠ [] ∧ ∃ node, graph.nodes[index]? = some node ∧
        node.label = label := by
  constructor
  · intro hfind
    rw [find?] at hfind
    split at hfind
    · cases hfind
    · rename_i hlabel
      obtain ⟨hindex, hnode, -⟩ := List.findIdx?_eq_some_iff_getElem.mp hfind
      exact ⟨hlabel, graph.nodes[index], List.getElem?_eq_getElem hindex,
        of_decide_eq_true hnode⟩
  · rintro ⟨hlabel, node, hnode, rfl⟩
    exact find?_label hnode hlabel

theorem isSome_find?_iff {graph : Graph} {label : Text} :
    (graph.find? label).isSome = true ↔
      label ≠ [] ∧ ∃ node ∈ graph.nodes, node.label = label := by
  rw [Option.isSome_iff_exists]
  simp only [find?_eq_some_iff, exists_and_left, exists_getElem?_iff]

/-- An edge is added between the nodes that its ends resolve to. -/
theorem addEdge_eq_ok {graph result : Graph} {source target : Ref}
    (hadd : graph.addEdge source target = .ok result) :
    ∃ first second,
      graph.resolve source = .ok first ∧ graph.resolve target = .ok second ∧
        result = graph.connect first second := by
  rw [addEdge] at hadd
  split at hadd
  · cases hadd
  · rename_i first hfirst
    split at hadd
    · cases hadd
    · rename_i second hsecond
      cases hadd
      exact ⟨first, second, hfirst, hsecond, rfl⟩

theorem exists_addEdge {graph : Graph} {source target : Ref}
    {first second : Fin graph.nodes.length}
    (hfirst : graph.resolve source = .ok first)
    (hsecond : graph.resolve target = .ok second) :
    graph.addEdge source target = .ok (graph.connect first second) := by
  rw [addEdge, hfirst]
  simp only [hsecond]

/-! ### What a new node or edge changes -/

/-- A new node is found by its label, and the other labels find what they did.
-/
theorem find?_addNode {graph next : Graph} {name label : Text}
    (hadd : graph.addNode name label = .ok next) (other : Text) :
    next.find? other =
      if label ≠ [] ∧ label = other then some graph.size
      else graph.find? other := by
  have hnodes := (addNode_eq_ok hadd).2.2
  by_cases hother : label ≠ [] ∧ label = other
  · obtain ⟨hlabel, rfl⟩ := hother
    rw [if_pos ⟨hlabel, rfl⟩, find?_eq_some_iff, hnodes, size,
      List.getElem?_concat_length]
    exact ⟨hlabel, _, rfl, rfl⟩
  · rw [if_neg hother]
    apply Option.ext
    intro index
    rw [find?_eq_some_iff, find?_eq_some_iff, hnodes]
    refine and_congr_right fun hlabel => ⟨?_, ?_⟩
    · rintro ⟨node, hnode, rfl⟩
      rw [List.getElem?_append] at hnode
      split at hnode
      · exact ⟨node, hnode, rfl⟩
      · obtain rfl := List.mem_singleton.mp (List.mem_of_getElem? hnode)
        exact absurd ⟨hlabel, rfl⟩ hother
    · rintro ⟨node, hnode, heq⟩
      have hindex := (List.getElem?_eq_some_iff.mp hnode).1
      exact ⟨node, (List.getElem?_append_left hindex).trans hnode, heq⟩

theorem predecessors_of_size_le {graph : Graph} {index : Nat}
    (hindex : graph.size ≤ index) : graph.predecessors index = [] := by
  rw [predecessors, List.filterMap_eq_nil_iff]
  intro edge hedge
  have hlt : edge.target < graph.size := (graph.ends_lt edge hedge).2
  exact if_neg (by omega)

theorem successors_of_size_le {graph : Graph} {index : Nat}
    (hindex : graph.size ≤ index) : graph.successors index = [] := by
  rw [successors, List.filterMap_eq_nil_iff]
  intro edge hedge
  have hlt : edge.source < graph.size := (graph.ends_lt edge hedge).1
  exact if_neg (by omega)

/-- A new edge adds its source to the predecessors of its target, at the end. -/
theorem predecessors_connect (graph : Graph)
    (source target : Fin graph.nodes.length) (index : Nat) :
    (graph.connect source target).predecessors index =
      graph.predecessors index ++ if target = index then [source.val] else
        [] := by
  rw [predecessors, connect, List.filterMap_append]
  by_cases htarget : target = index <;> simp [predecessors, htarget]

theorem successors_connect (graph : Graph)
    (source target : Fin graph.nodes.length) (index : Nat) :
    (graph.connect source target).successors index =
      graph.successors index ++ if source = index then [target.val] else
        [] := by
  rw [successors, connect, List.filterMap_append]
  by_cases hsource : source = index <;> simp [successors, hsource]

end Graph

end GenKill
