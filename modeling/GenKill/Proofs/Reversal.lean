import GenKill.Proofs.Graph.Growth
import GenKill.Proofs.Graph.Ledger
import GenKill.Proofs.Simulation
import GenKill.Proofs.Solution

/-!
# Reversed graphs

A graph is reversed by adding its nodes to an empty graph, and then its edges
with their ends swapped.  This never fails, and each list of predecessors of the
one graph is a list of successors of the other, in the same order.  So an
analysis of a graph is an analysis of its reversal in the opposite direction,
pass by pass.
-/

namespace GenKill

/-- The direction in which facts come from the other side. -/
def Direction.opposite : Direction → Direction
  | backward => forward
  | _ => backward

def Edge.swapped (edge : Edge) : Edge :=
  { source := edge.target, target := edge.source }

def Ledger.Entry.swapped (entry : Ledger.Entry) : Ledger.Entry :=
  { entry with preds := entry.succs, succs := entry.preds }

namespace Graph

/-- Adds the edges the other way round, one after the other. -/
def addSwapped (graph : Graph) : List Edge → Except Error Graph
  | [] => .ok graph
  | edge :: rest =>
      match graph.addEdge (.node (graph.site edge.target))
        (.node (graph.site edge.source)) with
      | .error error => .error error
      | .ok graph => graph.addSwapped rest

/-- A new graph with the same nodes and, for each edge, the edge with its ends
swapped. -/
def reversal (graph : Graph) (ident : Nat) : Except Error Graph :=
  match (empty ident).addNodes
    (graph.nodes.map fun node => (node.name, node.label)) with
  | .error error => .error error
  | .ok start => start.addSwapped graph.edges

/-- The graphs have the same nodes in the same order, and the edges of the one
are those of the other with their ends swapped, in the same order. -/
structure Reverses (graph reversed : Graph) : Prop where
  nodes : reversed.nodes.map (fun node => (node.name, node.label)) =
    graph.nodes.map fun node => (node.name, node.label)
  edges : reversed.edges.map (fun edge => (edge.source, edge.target)) =
    graph.edges.map fun edge => (edge.target, edge.source)

/-! ### Reversing never fails -/

theorem resolve_site (graph : Graph) {index : Nat}
    (hindex : index < graph.nodes.length) :
    graph.resolve (.node (graph.site index)) = .ok ⟨index, hindex⟩ := by
  rw [resolve]
  exact dif_pos ⟨hindex, rfl⟩

theorem grown_connect (graph : Graph) (source target : Fin graph.nodes.length) :
    Grown graph [] [{ source, target }] (graph.connect source target) :=
  ⟨rfl, ⟨rfl, rfl⟩, (List.append_nil _).symm, rfl⟩

/-- Edges between nodes of the graph can all be added with their ends swapped.
-/
theorem exists_addSwapped (graph : Graph) (edges : List Edge)
    (hends : ∀ edge ∈ edges,
      edge.source < graph.size ∧ edge.target < graph.size) :
    ∃ result, graph.addSwapped edges = .ok result ∧
      Grown graph [] (edges.map Edge.swapped) result := by
  induction edges generalizing graph with
  | nil => exact ⟨graph, rfl, .refl graph⟩
  | cons edge rest ih =>
      obtain ⟨hsource, htarget⟩ := hends edge List.mem_cons_self
      have hconnect :=
        exists_addEdge (graph.resolve_site htarget) (graph.resolve_site hsource)
      have hgrown :=
        graph.grown_connect ⟨edge.target, htarget⟩ ⟨edge.source, hsource⟩
      obtain ⟨result, hresult, hrest⟩ :=
        ih (graph.connect ⟨edge.target, htarget⟩
          ⟨edge.source, hsource⟩) fun other hother =>
          hends other (List.mem_cons_of_mem _ hother)
      refine ⟨result, ?_, hgrown.trans hrest⟩
      rw [addSwapped, hconnect]
      exact hresult

/-- Every graph can be reversed. -/
theorem exists_reversal (graph : Graph) (ident : Nat) :
    ∃ reversed, graph.reversal ident = .ok reversed ∧ reversed.ident = ident ∧
      graph.Reverses reversed := by
  have hdistinct : LabelsDistinct ((empty ident).nodes ++
      (graph.nodes.map fun node => (node.name, node.label)).map Node.bare) := by
    rw [List.map_map]
    exact List.pairwise_map.mpr graph.labels_distinct
  obtain ⟨start, hstart⟩ := (exists_addNodes_iff (empty ident) _).mpr hdistinct
  have hgrown := grown_addNodes hstart
  have hsize : start.size = graph.size := by
    rw [size, hgrown.nodes, List.map_map, List.length_append, List.length_map]
    exact Nat.zero_add _
  obtain ⟨reversed, hreversed, hedges⟩ :=
    start.exists_addSwapped graph.edges fun edge hedge =>
      hsize ▸ graph.ends_lt edge hedge
  refine ⟨reversed, ?_, ?_, ⟨?_, ?_⟩⟩
  · rw [reversal, hstart]
    exact hreversed
  · rw [hedges.ident, hgrown.ident]
    rfl
  · rw [hedges.nodes, List.append_nil, hgrown.nodes, empty, List.nil_append,
      List.map_map, List.map_map]
    rfl
  · rw [hedges.edges, hgrown.edges, List.append_nil, empty, List.nil_append,
      List.map_map]
    rfl

/-! ### Neighbors in a reversed graph -/

namespace Reverses

variable {graph reversed : Graph}

theorem symm (hreverses : graph.Reverses reversed) :
    reversed.Reverses graph := by
  refine ⟨hreverses.nodes.symm, ?_⟩
  have hswapped := congrArg (List.map Prod.swap) hreverses.edges
  rw [List.map_map, List.map_map] at hswapped
  exact hswapped.symm

theorem size_eq (hreverses : graph.Reverses reversed) :
    graph.size = reversed.size := by
  have hlength := congrArg List.length hreverses.nodes
  rw [List.length_map, List.length_map] at hlength
  exact hlength.symm

theorem name_site (hreverses : graph.Reverses reversed) (index : Nat) :
    (graph.site index).name = (reversed.site index).name := by
  have hnames := congrArg (List.map Prod.fst) hreverses.nodes
  rw [List.map_map, List.map_map] at hnames
  have hname := congrArg (fun names => (names[index]?).getD []) hnames
  simp only [List.getElem?_map] at hname
  exact hname.symm

/-- The predecessors in the reversal are the successors in the graph, in the
same order. -/
theorem predecessors_eq (hreverses : graph.Reverses reversed) (index : Nat) :
    reversed.predecessors index = graph.successors index := by
  have hpicked := congrArg (List.filterMap fun ends : Nat × Nat =>
    if ends.2 = index then some ends.1 else none) hreverses.edges
  rw [List.filterMap_map, List.filterMap_map] at hpicked
  exact hpicked

theorem successors_eq (hreverses : graph.Reverses reversed) (index : Nat) :
    reversed.successors index = graph.predecessors index :=
  (hreverses.symm.predecessors_eq index).symm

/-- Facts flow in the opposite direction over the reversal from the same
neighbors. -/
theorem neighbors_eq (hreverses : graph.Reverses reversed)
    (direction : Direction) (index : Nat) :
    direction.neighbors graph index =
      direction.opposite.neighbors reversed index := by
  cases direction with
  | backward => exact (hreverses.predecessors_eq index).symm
  | forward => exact (hreverses.successors_eq index).symm
  | other code => exact (hreverses.successors_eq index).symm

theorem entries_eq (hreverses : graph.Reverses reversed) :
    reversed.entries = graph.entries.map Ledger.Entry.swapped := by
  apply List.ext_getElem?
  intro index
  have hnode := congrArg (fun nodes => nodes[index]?.map fun node =>
    ({ id := index, name := node.1, label := node.2
       preds := graph.successors index
       succs := graph.predecessors index } : Ledger.Entry)) hreverses.nodes
  simp only [List.getElem?_map, Option.map_map] at hnode
  rw [entries, entries, List.getElem?_mapIdx, List.getElem?_map,
    List.getElem?_mapIdx, Option.map_map, hreverses.predecessors_eq,
    hreverses.successors_eq]
  exact hnode

/-- Analyses of a graph and of its reversal go on in lockstep, in opposite
directions. -/
theorem lockstep (hreverses : graph.Reverses reversed) (direction : Direction) :
    System.Lockstep graph direction reversed direction.opposite
      (System.SameSets graph reversed) where
  size := hreverses.size_eq
  name index _ := hreverses.name_site index
  neighbors index _ := hreverses.neighbors_eq direction index
  sets := id
  record hsame index _ value := hsame.record index value

end Reverses

end Graph

namespace System

/-- A graph can be reversed, and then its nodes have the same lists of neighbors
with the two lists exchanged.  Analyses that start with the same sets at the
same nodes, one of the graph and one of its reversal in the opposite direction,
report the same in each pass and leave the same sets, and they end after the
same number of passes. -/
theorem analysis_of_reversal (graph : Graph) (ident : Nat) :
    ∃ reversed, graph.reversal ident = .ok reversed ∧ reversed.ident = ident ∧
      graph.Reverses reversed ∧
      (∀ index, reversed.predecessors index = graph.successors index ∧
        reversed.successors index = graph.predecessors index) ∧
      (∀ {View : Type} {operations : Multigraph View}
        {ledger other : Ledger View},
        ledger.Mirrors operations graph → other.Mirrors operations reversed →
          other.nodes = ledger.nodes.map Ledger.Entry.swapped) ∧
      ∀ (direction : Direction) (left right : System),
        SameSets graph reversed left right →
          (∀ count, Pass.Same (SameSets graph reversed)
            ((after graph direction count left).pass graph direction)
            ((after reversed direction.opposite count right).pass reversed
              direction.opposite)) ∧
          (∀ budget,
            Run.Same (SameSets graph reversed) (run graph direction budget left)
              (run reversed direction.opposite budget right)) ∧
          Run.Same (SameSets graph reversed) (left.solve graph direction)
            (right.solve reversed direction.opposite) := by
  obtain ⟨reversed, hreversal, hident, hreverses⟩ := graph.exists_reversal ident
  refine ⟨reversed, hreversal, hident, hreverses, fun index => ?_,
    fun hledger hother => ?_, fun direction left right hsame => ?_⟩
  · exact ⟨hreverses.predecessors_eq index, hreverses.successors_eq index⟩
  · rw [hother.nodes, hledger.nodes, hreverses.entries_eq]
  · have hstep := hreverses.lockstep direction
    exact ⟨fun count => hstep.pass (hstep.after hsame count), hstep.run hsame,
      hstep.solve hsame⟩

/-- A node with an edge to itself between two others, to the second of which two
edges lead. -/
def spool : Graph where
  ident := 0
  nodes := [{ name := "a", label := "" }, { name := "b", label := "b" },
    { name := "a", label := "" }]
  edges := [{ source := 0, target := 1 }, { source := 1, target := 1 },
    { source := 1, target := 2 }, { source := 1, target := 2 },
    { source := 0, target := 2 }]
  ends_lt := by simp
  labels_distinct := by decide

def spoolBack : Graph where
  ident := 5
  nodes := [{ name := "a", label := "" }, { name := "b", label := "b" },
    { name := "a", label := "" }]
  edges := [{ source := 1, target := 0 }, { source := 1, target := 1 },
    { source := 2, target := 1 }, { source := 2, target := 1 },
    { source := 2, target := 0 }]
  ends_lt := by simp
  labels_distinct := by decide

/-- The fact is made at the node in the middle, and every node starts with
it. -/
def spoolSystem (graph : Graph) : System :=
  { ringStart with gen := ringStart.gen.set (graph.site 1) ringFacts.full }

theorem sameSets_spool :
    SameSets spool spoolBack (spoolSystem spool) (spoolSystem spoolBack) := by
  refine ⟨rfl, ?_, ?_, ?_⟩ <;> decide

theorem analysis_of_reversal_spool :
    spool.reversal 5 = .ok spoolBack ∧
      SameSets spool spoolBack (spoolSystem spool) (spoolSystem spoolBack) ∧
      ((spoolSystem spoolBack).pass spoolBack .forward).changed = true ∧
      ((spoolSystem spoolBack).solve spoolBack .forward).passes = 3 ∧
      ∀ index < spool.size,
        ((spoolSystem spool).solve spool .backward).system.out.get
            (spool.site index) =
          ((spoolSystem spoolBack).solve spoolBack .forward).system.out.get
            (spoolBack.site index) := by
  have hback : spool.reversal 5 = .ok spoolBack := rfl
  obtain ⟨reversed, hreversal, -, -, -, -, hruns⟩ :=
    analysis_of_reversal spool 5
  rw [hback] at hreversal
  cases hreversal
  obtain ⟨hpass, -, hsolve⟩ := hruns .backward _ _ sameSets_spool
  have hchanged : ((spoolSystem spool).pass spool .backward).changed =
      true := by decide +kernel
  have hpasses : ((spoolSystem spool).solve spool .backward).passes = 3 := by
    decide +kernel
  exact ⟨hback, sameSets_spool, (hpass 0).changed.symm.trans hchanged,
    hsolve.passes.symm.trans hpasses, hsolve.system.out⟩

end System

end GenKill
