import GenKill.Proofs.Graph
import GenKill.Proofs.Table
import GenKill.Workbench
import Mathlib.Data.List.Dedup
import Mathlib.Data.List.Perm.Basic
import Mathlib.Logic.Function.Basic

/-!
# Ledgers of graphs

Labels, predecessors, successors and edges between two nodes can be read off the
nodes and the edges of a graph.  A ledger keeps them instead: with each node the
two lists of its neighbors, the labels in a table, and everything once more in a
multigraph for algorithms that work on such.  So one edge is kept in four
places.  Whatever calls are made, the places agree with each other and with what
is read off the graph.
-/

namespace GenKill

/-! ### Multigraphs -/

/-- An edge as a multigraph has it, with a number of its own. -/
structure Line where
  id : Nat
  source : Nat
  target : Nat
  deriving DecidableEq

/-- The operations of a directed multigraph, which may come from elsewhere. -/
structure Multigraph (View : Type) where
  empty : View
  /-- Fails if there is a node with that number. -/
  addNode : View → Nat → Option View
  setLine : View → Line → View
  hasNode : View → Nat → Bool
  lines : View → Nat → Nat → List Line
  hasEdge : View → Nat → Nat → Bool

/-- What the operations are documented to do.  A line brings its ends with it,
and takes the place of one with the same number and the same ends. -/
structure Multigraph.Lawful {View : Type} (operations : Multigraph View) :
    Prop where
  hasNode_empty : ∀ id, operations.hasNode operations.empty id = false
  lines_empty : ∀ source target,
    operations.lines operations.empty source target = []
  addNode_eq_none_iff : ∀ view id,
    operations.addNode view id = none ↔ operations.hasNode view id = true
  hasNode_addNode : ∀ view id next, operations.addNode view id = some next →
    ∀ other,
      operations.hasNode next other =
        (decide (other = id) || operations.hasNode view other)
  lines_addNode : ∀ view id next, operations.addNode view id = some next →
    ∀ source target line, line ∈ operations.lines next source target ↔
      line ∈ operations.lines view source target
  hasNode_setLine : ∀ view line id,
    operations.hasNode (operations.setLine view line) id =
      (decide (id = line.source) || decide (id = line.target) ||
        operations.hasNode view id)
  lines_setLine : ∀ view line source target other,
    other ∈ operations.lines (operations.setLine view line) source target ↔
      other = line ∧ line.source = source ∧ line.target = target ∨
      other ∈ operations.lines view source target ∧
        ¬(other.id = line.id ∧ line.source = source ∧ line.target = target)
  nodup_lines : ∀ view source target,
    (operations.lines view source target).Nodup
  hasEdge_iff : ∀ view source target,
    operations.hasEdge view source target = true ↔
      operations.lines view source target ≠ []

/-! ### Calls -/

inductive GraphCall where
  | addNode (graph : Nat) (name label : Text)
  | addEdge (graph : Nat) (source target : Ref)
  /-- Adds an edge and gives back the graph. -/
  | edge (graph : Nat) (source target : Ref)

inductive GraphReply where
  /-- The number of the new node or edge. -/
  | added (id : Nat)
  | chained
  | refused (error : Error)
  | broken (fault : Fault)
  /-- The multigraph has had a node with that number before. -/
  | collided (id : Nat)

namespace GraphReply

def isFailure : GraphReply → Bool
  | added _ => false
  | chained => false
  | refused _ => true
  | broken _ => true
  | collided _ => true

/-- The reply where an edge that cannot be added is a fault. -/
def chain : GraphReply → GraphReply
  | added _ => chained
  | refused error => broken (.invalidEdge error)
  | reply => reply

/-- Chaining turns no failure into a success, and no success into a failure. -/
theorem isFailure_chain (reply : GraphReply) :
    reply.chain.isFailure = reply.isFailure := by
  cases reply <;> rfl

end GraphReply

/-- Makes calls one after the other, and collects the replies. -/
def play {State : Type} (step : State → GraphCall → State × GraphReply) :
    State → List GraphCall → State × List GraphReply
  | state, [] => (state, [])
  | state, call :: calls =>
      let (next, reply) := step state call
      let (last, replies) := play step next calls
      (last, reply :: replies)

/-- Two ways to make calls that stay together call by call stay together. -/
theorem play_related {Left Right : Type}
    {left : Left → GraphCall → Left × GraphReply}
    {right : Right → GraphCall → Right × GraphReply}
    {Related : Left → Right → Prop}
    (hstep : ∀ first second call, Related first second →
      (left first call).2 = (right second call).2 ∧
        Related (left first call).1 (right second call).1)
    {first : Left} {second : Right} (hrelated : Related first second)
    (calls : List GraphCall) :
    (play left first calls).2 = (play right second calls).2 ∧
      Related (play left first calls).1 (play right second calls).1 := by
  induction calls generalizing first second with
  | nil => exact ⟨rfl, hrelated⟩
  | cons call calls ih =>
      obtain ⟨hreply, hnext⟩ := hstep first second call hrelated
      obtain ⟨hreplies, hlast⟩ := ih hnext
      exact ⟨congrArg₂ List.cons hreply hreplies, hlast⟩

namespace Workbench

def addEdge (bench : Workbench) (number : Nat) (source target : Ref) :
    Workbench × GraphReply :=
  match (bench.graph number).addEdge source target with
  | .error error => (bench, .refused error)
  | .ok next => (bench.setGraph next, .added (bench.graph number).edges.length)

def grow (bench : Workbench) : GraphCall → Workbench × GraphReply
  | .addNode number name label =>
      match (bench.graph number).addNode name label with
      | .error error => (bench, .refused error)
      | .ok next => (bench.setGraph next, .added (bench.graph number).size)
  | .addEdge number source target => bench.addEdge number source target
  | .edge number source target =>
      let outcome := bench.addEdge number source target
      (outcome.1, outcome.2.chain)

end Workbench

/-! ### Nodes and edges with their numbers -/

/-- A node with the lists of its neighbors, one entry for each edge. -/
structure Ledger.Entry where
  id : Nat
  name : Text
  label : Text
  preds : List Nat := []
  succs : List Nat := []

namespace Graph

/-- The nodes of a graph with what is read off its edges. -/
def entries (graph : Graph) : List Ledger.Entry :=
  graph.nodes.mapIdx fun index node =>
    { id := index, name := node.name, label := node.label
      preds := graph.predecessors index, succs := graph.successors index }

def lines (graph : Graph) : List Line :=
  graph.edges.mapIdx fun index edge =>
    { id := index, source := edge.source, target := edge.target }

theorem map_ends_lines (graph : Graph) :
    graph.lines.map (fun line => (line.source, line.target)) =
      graph.edges.map fun edge => (edge.source, edge.target) := by
  apply List.ext_getElem?
  intro index
  rw [lines, List.getElem?_map, List.getElem?_mapIdx, List.getElem?_map,
    Option.map_map]
  rfl

/-- Lines and edges are picked from in the same way. -/
theorem filterMap_lines (graph : Graph) (pick : Nat → Nat → Option Nat) :
    graph.lines.filterMap (fun line => pick line.source line.target) =
      graph.edges.filterMap fun edge => pick edge.source edge.target := by
  have hends :=
    congrArg (List.filterMap fun ends => pick ends.1 ends.2)
      graph.map_ends_lines
  rw [List.filterMap_map, List.filterMap_map] at hends
  exact hends

theorem predecessors_eq_lines (graph : Graph) (index : Nat) :
    graph.predecessors index =
      (graph.lines.filter fun line => line.target = index).map Line.source := by
  rw [predecessors, ← List.filterMap_eq_map, List.filterMap_filter]
  simp only [decide_eq_true_eq, Function.comp_apply]
  exact (graph.filterMap_lines fun source target =>
    if target = index then some source else none).symm

theorem successors_eq_lines (graph : Graph) (index : Nat) :
    graph.successors index =
      (graph.lines.filter fun line => line.source = index).map Line.target := by
  rw [successors, ← List.filterMap_eq_map, List.filterMap_filter]
  simp only [decide_eq_true_eq, Function.comp_apply]
  exact (graph.filterMap_lines fun source target =>
    if source = index then some target else none).symm

theorem nodup_lines (graph : Graph) : graph.lines.Nodup := by
  rw [List.Nodup, List.pairwise_iff_getElem]
  intro left right hleft hright hlt heq
  have hid := congrArg Line.id heq
  simp only [lines, List.getElem_mapIdx] at hid
  omega

end Graph

/-! ### Ledgers -/

structure Ledger (View : Type) where
  nodes : List Ledger.Entry := []
  edges : List Line := []
  /-- The numbers of the labeled nodes. -/
  labels : Table Text Nat := .empty
  view : View

namespace Ledger

variable {View : Type} {operations : Multigraph View} {ledger : Ledger View}
  {graph : Graph}

/-- The error of an edge end that is not found. -/
def unresolved : Ref → Error
  | .node site => .foreignNode site.name
  | .label label => .unknownLabel label

/-- The number of the node that an edge end means; the ledger belongs to a graph
of that number. -/
def resolve (ledger : Ledger View) (number : Nat) (ref : Ref) :
    Except Error Nat :=
  match ref with
  | .node site =>
      if site.graph = number ∧
          (ledger.nodes[site.index]?.map Entry.name) = some site.name then
        .ok site.index
      else .error (unresolved ref)
  | .label label =>
      match ledger.labels.get? label with
      | some index => .ok index
      | none => .error (unresolved ref)

/-- Puts a node in all places but the multigraph. -/
def withNode (ledger : Ledger View) (name label : Text) : Ledger View :=
  let id := ledger.nodes.length
  { ledger with
    nodes := ledger.nodes ++ [{ id, name, label }]
    labels :=
      if label = [] then ledger.labels else ledger.labels.insert label id }

/-- The multigraph comes last, so if it fails the other places have the node
already. -/
def addNode (operations : Multigraph View) (ledger : Ledger View)
    (name label : Text) : Ledger View × GraphReply :=
  let id := ledger.nodes.length
  if label ≠ [] ∧ (ledger.labels.get? label).isSome then
    (ledger, .refused (.duplicateLabel label))
  else
    match operations.addNode ledger.view id with
    | none => (ledger.withNode name label, .collided id)
    | some view => ({ ledger.withNode name label with view }, .added id)

def connect (operations : Multigraph View) (ledger : Ledger View)
    (source target : Nat) : Ledger View :=
  let line := { id := ledger.edges.length, source, target }
  let withSucc := ledger.nodes.modify source fun entry =>
    { entry with succs := entry.succs ++ [target] }
  { ledger with
    edges := ledger.edges ++ [line]
    nodes :=
      withSucc.modify target fun entry =>
        { entry with preds := entry.preds ++ [source] }
    view := operations.setLine ledger.view line }

def addEdge (operations : Multigraph View) (ledger : Ledger View) (number : Nat)
    (source target : Ref) : Ledger View × GraphReply :=
  match ledger.resolve number source with
  | .error error => (ledger, .refused error)
  | .ok first =>
      match ledger.resolve number target with
      | .error error => (ledger, .refused error)
      | .ok second =>
          (ledger.connect operations first second, .added ledger.edges.length)

/-! ### What a ledger has to say about a graph -/

/-- All places of a ledger agree with what is read off a graph. -/
structure Mirrors (operations : Multigraph View) (ledger : Ledger View)
    (graph : Graph) : Prop where
  nodes : ledger.nodes = graph.entries
  edges : ledger.edges = graph.lines
  labels : ∀ label, ledger.labels.get? label = graph.find? label
  hasNode : ∀ id, operations.hasNode ledger.view id = decide (id < graph.size)
  lines : ∀ source target line,
    line ∈ operations.lines ledger.view source target ↔
      line ∈ graph.lines ∧ line.source = source ∧ line.target = target

theorem mirrors_empty (hlawful : operations.Lawful) (number : Nat) :
    Mirrors operations { view := operations.empty } (Graph.empty number) := by
  refine ⟨rfl, rfl, fun label => ?_, fun id => ?_, fun source target line => ?_⟩
  · rw [Graph.find?]
    split <;> rfl
  · rw [hlawful.hasNode_empty]
    rfl
  · rw [hlawful.lines_empty]
    simp [Graph.lines, Graph.empty]

namespace Mirrors

theorem length_nodes (hmirrors : Mirrors operations ledger graph) :
    ledger.nodes.length = graph.size := by
  rw [hmirrors.nodes, Graph.entries, List.length_mapIdx]
  rfl

theorem length_edges (hmirrors : Mirrors operations ledger graph) :
    ledger.edges.length = graph.edges.length := by
  rw [hmirrors.edges, Graph.lines, List.length_mapIdx]

theorem getElem?_nodes (hmirrors : Mirrors operations ledger graph)
    (index : Nat) :
    ledger.nodes[index]? = graph.nodes[index]?.map fun node =>
      { id := index, name := node.name, label := node.label
        preds := graph.predecessors index, succs :=
          graph.successors index } := by
  rw [hmirrors.nodes, Graph.entries, List.getElem?_mapIdx]

/-- An edge end means the same node in the ledger and in the graph. -/
theorem resolve_eq (hmirrors : Mirrors operations ledger graph) (ref : Ref) :
    ledger.resolve graph.ident ref = (graph.resolve ref).map Fin.val := by
  cases ref with
  | node site =>
      have hname : ledger.nodes[site.index]?.map Entry.name =
          graph.nodes[site.index]?.map Node.name := by
        rw [hmirrors.getElem?_nodes, Option.map_map]
        rfl
      have hown : (site.graph = graph.ident ∧
          ledger.nodes[site.index]?.map Entry.name = some site.name) ↔
          site.index < graph.nodes.length ∧ graph.site site.index = site := by
        obtain ⟨number, index, name⟩ := site
        rw [hname]
        simp only [Graph.site, Site.mk.injEq, true_and]
        by_cases hindex : index < graph.nodes.length
        · simp [hindex, eq_comm]
        · simp [hindex]
      simp only [resolve, Graph.resolve, unresolved]
      by_cases hsite : site.index < graph.nodes.length ∧
          graph.site site.index = site
      · rw [if_pos (hown.mpr hsite), dif_pos hsite]
        rfl
      · rw [if_neg (mt hown.mp hsite), dif_neg hsite]
        rfl
  | label label =>
      rw [Graph.resolve_label, resolve, hmirrors.labels]
      rfl

end Mirrors

/-! ### The places of a ledger among themselves -/

/-- Numbers are positions, and what is kept more than once is the same
everywhere. -/
structure Coherent (operations : Multigraph View) (ledger : Ledger View) :
    Prop where
  node_id : ∀ (index : Nat) (entry : Entry), ledger.nodes[index]? = some entry →
    entry.id = index
  edge_id : ∀ (index : Nat) (line : Line), ledger.edges[index]? = some line →
    line.id = index
  ends_lt : ∀ line ∈ ledger.edges,
    line.source < ledger.nodes.length ∧ line.target < ledger.nodes.length
  labels_iff : ∀ label index, ledger.labels.get? label = some index ↔
    label ≠ [] ∧ ∃ entry, ledger.nodes[index]? = some entry ∧
      entry.label = label
  preds_eq : ∀ entry ∈ ledger.nodes, entry.preds =
    (ledger.edges.filter fun line => line.target = entry.id).map Line.source
  succs_eq : ∀ entry ∈ ledger.nodes, entry.succs =
    (ledger.edges.filter fun line => line.source = entry.id).map Line.target
  hasNode_iff : ∀ id, operations.hasNode ledger.view id = true ↔
    id < ledger.nodes.length
  lines_perm : ∀ source target,
    (operations.lines ledger.view source target).Perm
      (ledger.edges.filter fun line =>
        line.source = source ∧ line.target = target)
  hasEdge_iff : ∀ source target,
    operations.hasEdge ledger.view source target = true ↔
      ∃ line ∈ ledger.edges, line.source = source ∧ line.target = target

/-- A ledger that mirrors a graph is coherent. -/
theorem Mirrors.coherent (hlawful : operations.Lawful)
    (hmirrors : Mirrors operations ledger graph) :
    Coherent operations ledger := by
  have hentry : ∀ entry ∈ ledger.nodes,
      entry.preds = graph.predecessors entry.id ∧
        entry.succs = graph.successors entry.id := by
    intro entry hmem
    rw [hmirrors.nodes, Graph.entries] at hmem
    obtain ⟨index, hindex, rfl⟩ := List.mem_mapIdx.mp hmem
    exact ⟨rfl, rfl⟩
  have hline : ∀ source target (line : Line),
      line ∈ operations.lines ledger.view source target ↔
        line ∈ ledger.edges ∧ line.source = source ∧ line.target = target := by
    intro source target line
    rw [hmirrors.lines, hmirrors.edges]
  refine ⟨fun index entry hindex => ?_, fun index line hindex => ?_,
    fun line hmem => ?_, fun label index => ?_, fun entry hmem => ?_,
    fun entry hmem => ?_, fun id => ?_, fun source target => ?_,
    fun source target => ?_⟩
  · rw [hmirrors.getElem?_nodes, Option.map_eq_some_iff] at hindex
    obtain ⟨node, -, rfl⟩ := hindex
    rfl
  · rw [hmirrors.edges, Graph.lines, List.getElem?_mapIdx,
      Option.map_eq_some_iff] at hindex
    obtain ⟨edge, -, rfl⟩ := hindex
    rfl
  · rw [hmirrors.edges, Graph.lines] at hmem
    obtain ⟨index, hindex, rfl⟩ := List.mem_mapIdx.mp hmem
    rw [hmirrors.length_nodes]
    exact graph.ends_lt _ (List.getElem_mem hindex)
  · rw [hmirrors.labels, Graph.find?_eq_some_iff, hmirrors.getElem?_nodes]
    refine and_congr_right fun _ => ⟨?_, ?_⟩
    · rintro ⟨node, hnode, heq⟩
      rw [hnode]
      exact ⟨_, rfl, heq⟩
    · rintro ⟨entry, hentry, heq⟩
      obtain ⟨node, hnode, rfl⟩ := Option.map_eq_some_iff.mp hentry
      exact ⟨node, hnode, heq⟩
  · rw [(hentry entry hmem).1, Graph.predecessors_eq_lines, hmirrors.edges]
  · rw [(hentry entry hmem).2, Graph.successors_eq_lines, hmirrors.edges]
  · rw [hmirrors.hasNode, decide_eq_true_eq, hmirrors.length_nodes]
  · rw [List.perm_ext_iff_of_nodup (hlawful.nodup_lines _ _ _)
      (List.Nodup.filter _ (hmirrors.edges ▸ graph.nodup_lines))]
    intro line
    rw [hline, List.mem_filter, decide_eq_true_eq]
  · rw [hlawful.hasEdge_iff, Ne, List.eq_nil_iff_forall_not_mem]
    push Not
    simp only [hline]

theorem Coherent.isSome_labels_iff (hcoherent : Coherent operations ledger)
    {label : Text} :
    (ledger.labels.get? label).isSome = true ↔
      label ≠ [] ∧ ∃ entry ∈ ledger.nodes, entry.label = label := by
  rw [Option.isSome_iff_exists]
  simp only [hcoherent.labels_iff, exists_and_left, exists_getElem?_iff]

/-- The number of the next node is new to the multigraph. -/
theorem Coherent.exists_addNode (hlawful : operations.Lawful)
    (hcoherent : Coherent operations ledger) :
    ∃ view, operations.addNode ledger.view ledger.nodes.length = some view := by
  rw [← Option.ne_none_iff_exists', Ne, hlawful.addNode_eq_none_iff,
    hcoherent.hasNode_iff]
  exact Nat.lt_irrefl _

/-- The multigraph of a ledger has the edges of the graph. -/
theorem Mirrors.hasEdge_eq (hlawful : operations.Lawful)
    (hmirrors : Mirrors operations ledger graph) (source target : Nat) :
    operations.hasEdge ledger.view source target =
      graph.hasEdge source target := by
  have hends := congrArg ((source, target) ∈ ·) graph.map_ends_lines
  simp only [List.mem_map, Prod.mk.injEq, eq_iff_iff] at hends
  rw [Bool.eq_iff_iff, (hmirrors.coherent hlawful).hasEdge_iff, hmirrors.edges,
    hends, Graph.hasEdge, List.any_eq_true]
  simp only [decide_eq_true_eq]

/-! ### Calls to a ledger -/

namespace Mirrors

theorem used_iff (hmirrors : Mirrors operations ledger graph) (label : Text) :
    (label ≠ [] ∧ (ledger.labels.get? label).isSome = true) ↔
      label ≠ [] ∧ ∃ node ∈ graph.nodes, node.label = label := by
  rw [hmirrors.labels, Graph.isSome_find?_iff, ← and_assoc, and_self]

theorem withNode (hlawful : operations.Lawful)
    (hmirrors : Mirrors operations ledger graph) {name label : Text}
    {next : Graph} (hadd : graph.addNode name label = .ok next) {view : View}
    (hview : operations.addNode ledger.view graph.size = some view) :
    Mirrors operations { ledger.withNode name label with view } next := by
  obtain ⟨-, hedges, hnodes⟩ := Graph.addNode_eq_ok hadd
  have hpreds : next.predecessors = graph.predecessors := by
    funext index
    rw [Graph.predecessors, hedges]
    rfl
  have hsuccs : next.successors = graph.successors := by
    funext index
    rw [Graph.successors, hedges]
    rfl
  have hsize : next.size = graph.size + 1 := by
    rw [Graph.size, hnodes, List.length_append]
    rfl
  have hlines : next.lines = graph.lines := by
    rw [Graph.lines, hedges]
    rfl
  refine ⟨?_, hmirrors.edges.trans hlines.symm, fun other => ?_, fun id => ?_,
    fun source target line => ?_⟩
  · -- no edge of the graph has the new node as an end
    have hnone := Graph.predecessors_of_size_le (Nat.le_refl graph.size)
    have hnone' := Graph.successors_of_size_le (Nat.le_refl graph.size)
    rw [Graph.size] at hnone hnone'
    rw [Graph.entries, hnodes, List.mapIdx_concat, hpreds, hsuccs, hnone,
      hnone']
    simp only [Ledger.withNode, hmirrors.length_nodes]
    rw [hmirrors.nodes]
    rfl
  · rw [Graph.find?_addNode hadd]
    simp only [Ledger.withNode, hmirrors.length_nodes]
    by_cases hlabel : label = []
    · simp [hlabel, hmirrors.labels]
    · simp only [hlabel, if_false, Table.get?_insert, hmirrors.labels, ne_eq,
        not_false_eq_true, true_and]
  · rw [hlawful.hasNode_addNode _ _ _ hview, hmirrors.hasNode, hsize,
      ← Bool.decide_or, decide_eq_decide]
    omega
  · rw [hlawful.lines_addNode _ _ _ hview, hmirrors.lines, hlines]

/-- A new node takes its place everywhere: its number is new to the multigraph
too. -/
theorem addNode_ok (hlawful : operations.Lawful)
    (hmirrors : Mirrors operations ledger graph) {name label : Text}
    {next : Graph} (hadd : graph.addNode name label = .ok next) :
    ∃ kept, ledger.addNode operations name label = (kept, .added graph.size) ∧
      Mirrors operations kept next := by
  have hunused : ¬(label ≠ [] ∧ (ledger.labels.get? label).isSome = true) := by
    rw [hmirrors.used_iff]
    intro hused
    rw [Graph.addNode, dif_pos hused] at hadd
    cases hadd
  obtain ⟨view, hview⟩ := (hmirrors.coherent hlawful).exists_addNode hlawful
  rw [hmirrors.length_nodes] at hview
  refine ⟨_, ?_, hmirrors.withNode hlawful hadd hview⟩
  rw [addNode, if_neg hunused, hmirrors.length_nodes, hview]

/-- A label that the graph refuses is refused before anything is put
anywhere. -/
theorem addNode_error (hmirrors : Mirrors operations ledger graph)
    {name label : Text} {error : Error}
    (hadd : graph.addNode name label = .error error) :
    ledger.addNode operations name label = (ledger, .refused error) := by
  rw [Graph.addNode] at hadd
  split at hadd
  · rename_i hused
    cases hadd
    rw [addNode, if_pos ((hmirrors.used_iff label).mpr hused)]
  · cases hadd

/-- A new edge takes its place everywhere, also if its ends are one node. -/
theorem connect (hlawful : operations.Lawful)
    (hmirrors : Mirrors operations ledger graph)
    (source target : Fin graph.nodes.length) :
    Mirrors operations (ledger.connect operations source target)
      (graph.connect source target) := by
  have hlines : (graph.connect source target).lines =
      graph.lines ++
        [{ id := graph.edges.length, source := source, target := target }] := by
    rw [Graph.lines, Graph.connect, List.mapIdx_concat]
    rfl
  have hid : ∀ line ∈ graph.lines, line.id ≠ graph.edges.length := by
    intro line hline
    obtain ⟨index, hindex, rfl⟩ := List.mem_mapIdx.mp hline
    exact Nat.ne_of_lt hindex
  refine ⟨?_, ?_, fun label => hmirrors.labels label, fun id => ?_,
    fun first second line => ?_⟩
  · apply List.ext_getElem?
    intro index
    simp only [Ledger.connect, List.getElem?_modify, hmirrors.getElem?_nodes,
      Graph.entries, List.getElem?_mapIdx, Graph.predecessors_connect,
      Graph.successors_connect]
    cases hnode : graph.nodes[index]? with
    | none => simp [Graph.connect, hnode]
    | some node =>
        -- the two updates meet in one entry if the edge is a self-loop
        by_cases hsource : source = index <;>
            by_cases htarget : target = index <;>
          simp [Graph.connect, hnode, hsource, htarget]
  · rw [hlines, ← hmirrors.edges, ← hmirrors.length_edges]
    rfl
  · have hsource := source.isLt
    have htarget := target.isLt
    simp only [Ledger.connect, hlawful.hasNode_setLine, hmirrors.hasNode,
      ← Bool.decide_or]
    rw [decide_eq_decide]
    simp only [Graph.size, Graph.connect]
    omega
  · simp only [Ledger.connect, hlawful.lines_setLine, hmirrors.lines, hlines,
      List.mem_append, List.mem_singleton, hmirrors.length_edges]
    constructor
    · rintro (⟨rfl, hends⟩ | ⟨⟨hline, hends⟩, -⟩)
      · exact ⟨.inr rfl, hends⟩
      · exact ⟨.inl hline, hends⟩
    · rintro ⟨hline | rfl, hends⟩
      · exact .inr ⟨⟨hline, hends⟩, fun hsame => hid line hline hsame.1⟩
      · exact .inl ⟨rfl, hends⟩

/-- An edge that the graph accepts is accepted by the ledger, which stays a
mirror. -/
theorem addEdge_ok (hlawful : operations.Lawful)
    (hmirrors : Mirrors operations ledger graph) {source target : Ref}
    {next : Graph} (hadd : graph.addEdge source target = .ok next) :
    ∃ kept, ledger.addEdge operations graph.ident source target =
        (kept, .added graph.edges.length) ∧ Mirrors operations kept next := by
  obtain ⟨first, second, hfirst, hsecond, rfl⟩ := Graph.addEdge_eq_ok hadd
  refine ⟨_, ?_, hmirrors.connect hlawful first second⟩
  rw [addEdge, hmirrors.resolve_eq, hmirrors.resolve_eq, hfirst, hsecond,
    hmirrors.length_edges]
  rfl

/-- An edge end that the graph refuses is refused before anything is put
anywhere. -/
theorem addEdge_error (hmirrors : Mirrors operations ledger graph)
    {source target : Ref} {error : Error}
    (hadd : graph.addEdge source target = .error error) :
    ledger.addEdge operations graph.ident source target =
      (ledger, .refused error) := by
  rw [addEdge, hmirrors.resolve_eq, hmirrors.resolve_eq]
  rw [Graph.addEdge] at hadd
  cases hfirst : graph.resolve source with
  | error _ =>
      rw [hfirst] at hadd
      cases hadd
      rfl
  | ok first =>
      cases hsecond : graph.resolve target with
      | error _ =>
          simp only [hfirst, hsecond] at hadd
          cases hadd
          rfl
      | ok second =>
          simp only [hfirst, hsecond] at hadd
          cases hadd

end Mirrors

/-- A ledger finds an edge end: a node of its own graph, or a label in its
table. -/
def Finds (ledger : Ledger View) (number : Nat) : Ref → Prop
  | .node site => site.graph = number ∧
      ∃ entry, ledger.nodes[site.index]? = some entry ∧ entry.name = site.name
  | .label label => (ledger.labels.get? label).isSome = true

theorem finds_iff (ledger : Ledger View) (number : Nat) (ref : Ref) :
    ledger.Finds number ref ↔
      ∃ index, ledger.resolve number ref = .ok index := by
  cases ref with
  | node site =>
      simp only [Finds, resolve, ← Option.map_eq_some_iff]
      split
      · rename_i hown
        exact ⟨fun _ => ⟨_, rfl⟩, fun _ => hown⟩
      · rename_i hown
        exact ⟨fun hfinds => absurd hfinds hown,
          fun ⟨_, hresolve⟩ => by cases hresolve⟩
  | label label =>
      simp only [Finds, resolve]
      cases ledger.labels.get? label <;> simp

theorem resolve_of_not_finds {number : Nat} {ref : Ref}
    (hlost : ¬ledger.Finds number ref) :
    ledger.resolve number ref = .error (unresolved ref) := by
  rw [finds_iff] at hlost
  cases hresolve : ledger.resolve number ref with
  | ok index => exact absurd ⟨index, hresolve⟩ hlost
  | error error =>
      cases ref <;> simp only [resolve] at hresolve <;> split at hresolve <;>
        cases hresolve <;> rfl

end Ledger

/-! ### Several graphs -/

abbrev Ledgers (View : Type) := Nat → Ledger View

namespace Ledgers

variable {View : Type} {operations : Multigraph View} {ledgers : Ledgers View}
  {bench : Workbench}

def fresh (operations : Multigraph View) : Ledgers View :=
  fun _ => { view := operations.empty }

def addEdge (operations : Multigraph View) (ledgers : Ledgers View)
    (number : Nat) (source target : Ref) : Ledgers View × GraphReply :=
  let outcome := (ledgers number).addEdge operations number source target
  (Function.update ledgers number outcome.1, outcome.2)

def grow (operations : Multigraph View) (ledgers : Ledgers View) :
    GraphCall → Ledgers View × GraphReply
  | .addNode number name label =>
      let outcome := (ledgers number).addNode operations name label
      (Function.update ledgers number outcome.1, outcome.2)
  | .addEdge number source target =>
      ledgers.addEdge operations number source target
  | .edge number source target =>
      let outcome := ledgers.addEdge operations number source target
      (outcome.1, outcome.2.chain)

/-- Each ledger mirrors the graph of its number. -/
structure Mirrors (operations : Multigraph View) (ledgers : Ledgers View)
    (bench : Workbench) : Prop where
  ident : ∀ number, (bench.graph number).ident = number
  ledger : ∀ number, (ledgers number).Mirrors operations (bench.graph number)

theorem mirrors_fresh (hlawful : operations.Lawful) :
    (fresh operations).Mirrors operations {} :=
  ⟨fun _ => rfl, fun number => Ledger.mirrors_empty hlawful number⟩

namespace Mirrors

theorem update (hmirrors : ledgers.Mirrors operations bench) {number : Nat}
    {ledger : Ledger View} {graph : Graph} (hident : graph.ident = number)
    (hledger : ledger.Mirrors operations graph) :
    Mirrors operations (Function.update ledgers number ledger)
      (bench.setGraph graph) := by
  have hgraph : ∀ other, (bench.setGraph graph).graph other =
      if number = other then graph else bench.graph other := by
    intro other
    rw [Workbench.graph, Workbench.setGraph, Table.get?_insert, hident]
    split <;> rfl
  refine ⟨fun other => ?_, fun other => ?_⟩ <;> rw [hgraph]
  · split
    · rename_i heq
      exact hident.trans heq
    · exact hmirrors.ident other
  · by_cases heq : number = other
    · subst heq
      rw [if_pos rfl, Function.update_self]
      exact hledger
    · rw [if_neg heq, Function.update_of_ne (Ne.symm heq)]
      exact hmirrors.ledger other

/-- What a call does to the ledgers and to the workbench. -/
structure Stays (operations : Multigraph View) (ledgers : Ledgers View)
    (bench : Workbench) (kept : Ledgers View × GraphReply)
    (read : Workbench × GraphReply) : Prop where
  reply : kept.2 = read.2
  mirrors : kept.1.Mirrors operations read.1
  unchanged : read.2.isFailure = true → kept.1 = ledgers ∧ read.1 = bench

theorem addEdge (hlawful : operations.Lawful)
    (hmirrors : ledgers.Mirrors operations bench) (number : Nat)
    (source target : Ref) :
    Stays operations ledgers bench
      (ledgers.addEdge operations number source target)
      (bench.addEdge number source target) := by
  have hledger := hmirrors.ledger number
  have hident := hmirrors.ident number
  rw [Ledgers.addEdge, Workbench.addEdge]
  cases hadd : (bench.graph number).addEdge source target with
  | error error =>
      have hrefused := hledger.addEdge_error hadd
      rw [hident] at hrefused
      simp only [hrefused, Function.update_eq_self]
      exact ⟨rfl, hmirrors, fun _ => ⟨rfl, rfl⟩⟩
  | ok next =>
      obtain ⟨kept, hkept, hnext⟩ := hledger.addEdge_ok hlawful hadd
      have hnextIdent : next.ident = number := by
        obtain ⟨_, _, -, -, rfl⟩ := Graph.addEdge_eq_ok hadd
        exact hident
      rw [hident] at hkept
      rw [hkept]
      exact ⟨rfl, hmirrors.update hnextIdent hnext,
        fun hfailure => by cases hfailure⟩

/-- Each call replies the same, keeps the mirror and, if it fails, changes
nothing. -/
theorem grow (hlawful : operations.Lawful)
    (hmirrors : ledgers.Mirrors operations bench) (call : GraphCall) :
    Stays operations ledgers bench (ledgers.grow operations call)
      (bench.grow call) := by
  cases call with
  | addNode number name label =>
      have hledger := hmirrors.ledger number
      rw [Ledgers.grow, Workbench.grow]
      cases hadd : (bench.graph number).addNode name label with
      | error error =>
          simp only [hledger.addNode_error hadd, Function.update_eq_self]
          exact ⟨rfl, hmirrors, fun _ => ⟨rfl, rfl⟩⟩
      | ok next =>
          obtain ⟨kept, hkept, hnext⟩ := hledger.addNode_ok hlawful hadd
          have hident :=
            (Graph.ident_addNode hadd).trans (hmirrors.ident number)
          rw [hkept]
          exact ⟨rfl, hmirrors.update hident hnext,
            fun hfailure => by cases hfailure⟩
  | addEdge number source target =>
      exact hmirrors.addEdge hlawful number source target
  | edge number source target =>
      obtain ⟨hreply, hnext, hunchanged⟩ :=
        hmirrors.addEdge hlawful number source target
      refine ⟨congrArg GraphReply.chain hreply, hnext,
        fun hfailure => hunchanged ?_⟩
      rw [← GraphReply.isFailure_chain]
      exact hfailure

end Mirrors

/-- What calls are refused, and with which error. -/
structure Guards (operations : Multigraph View) (ledgers : Ledgers View) :
    Prop where
  used : ∀ number name label, label ≠ [] →
    (∃ entry ∈ (ledgers number).nodes, entry.label = label) →
      (ledgers.grow operations (.addNode number name label)).2 =
        .refused (.duplicateLabel label)
  unused : ∀ number name label,
    (label ≠ [] → ∀ entry ∈ (ledgers number).nodes, entry.label ≠ label) →
      (ledgers.grow operations (.addNode number name label)).2 =
        .added (ledgers number).nodes.length
  source : ∀ number source target, ¬(ledgers number).Finds number source →
    (ledgers.grow operations (.addEdge number source target)).2 =
      .refused (Ledger.unresolved source)
  target : ∀ number source target, (ledgers number).Finds number source →
    ¬(ledgers number).Finds number target →
      (ledgers.grow operations (.addEdge number source target)).2 =
        .refused (Ledger.unresolved target)
  both : ∀ number source target, (ledgers number).Finds number source →
    (ledgers number).Finds number target →
      (ledgers.grow operations (.addEdge number source target)).2 =
        .added (ledgers number).edges.length
  chained : ∀ number source target,
    (ledgers.grow operations (.edge number source target)).2 =
      (ledgers.grow operations (.addEdge number source target)).2.chain
  own : ∀ number other index (entry : Ledger.Entry),
    (ledgers other).nodes[index]? = some entry →
      ((ledgers number).Finds number (.node ⟨other, index, entry.name⟩) ↔
        other = number)

/-- Ledgers that mirror graphs refuse used labels and lost ends, and nothing
else. -/
theorem Mirrors.guards (hlawful : operations.Lawful)
    (hmirrors : ledgers.Mirrors operations bench) :
    Guards operations ledgers := by
  have hcoherent : ∀ number, (ledgers number).Coherent operations :=
    fun number => (hmirrors.ledger number).coherent hlawful
  refine ⟨?_, ?_, ?_, ?_, ?_, fun _ _ _ => rfl, ?_⟩
  · intro number name label hlabel hentry
    rw [Ledgers.grow, Ledger.addNode,
      if_pos ⟨hlabel,
        (hcoherent number).isSome_labels_iff.mpr ⟨hlabel, hentry⟩⟩]
  · intro number name label hunused
    have hfree :
        ¬(label ≠ [] ∧ ((ledgers number).labels.get? label).isSome = true) := by
      rintro ⟨hlabel, hsome⟩
      obtain ⟨-, entry, hentry, heq⟩ :=
        (hcoherent number).isSome_labels_iff.mp hsome
      exact hunused hlabel entry hentry heq
    obtain ⟨view, hview⟩ := (hcoherent number).exists_addNode hlawful
    rw [Ledgers.grow, Ledger.addNode, if_neg hfree, hview]
  · intro number source target hsource
    rw [Ledgers.grow, Ledgers.addEdge, Ledger.addEdge,
      Ledger.resolve_of_not_finds hsource]
  · intro number source target hsource htarget
    obtain ⟨first, hfirst⟩ := (Ledger.finds_iff _ _ _).mp hsource
    rw [Ledgers.grow, Ledgers.addEdge, Ledger.addEdge, hfirst,
      Ledger.resolve_of_not_finds htarget]
  · intro number source target hsource htarget
    obtain ⟨first, hfirst⟩ := (Ledger.finds_iff _ _ _).mp hsource
    obtain ⟨second, hsecond⟩ := (Ledger.finds_iff _ _ _).mp htarget
    rw [Ledgers.grow, Ledgers.addEdge, Ledger.addEdge, hfirst, hsecond]
  · intro number other index entry hentry
    constructor
    · exact fun hfinds => hfinds.1
    · rintro rfl
      exact ⟨rfl, entry, hentry, rfl⟩

/-- Ledgers that are kept from the start reply as the graphs do, and mirror
them. -/
theorem mirrors_play (hlawful : operations.Lawful) (calls : List GraphCall) :
    (play (grow operations) (fresh operations) calls).2 =
        (play Workbench.grow {} calls).2 ∧
      (play (grow operations) (fresh operations) calls).1.Mirrors operations
        (play Workbench.grow {} calls).1 := by
  have hstep :
      ∀ (ledgers : Ledgers View) (bench : Workbench) (call : GraphCall),
        ledgers.Mirrors operations bench →
          (grow operations ledgers call).2 = (bench.grow call).2 ∧
            (grow operations ledgers call).1.Mirrors operations
              (bench.grow call).1 := by
    intro ledgers bench call hmirrors
    have hstays := hmirrors.grow hlawful call
    exact ⟨hstays.reply, hstays.mirrors⟩
  exact play_related hstep (mirrors_fresh hlawful) calls

/-- Whatever nodes and edges are added to however many graphs, and whichever
calls are refused in between: the ledgers stay coherent, they reply and show
what is read off the graphs, they refuse just the used labels and the ends that
they do not find, and a call that fails changes nothing. -/
theorem coherent_after_calls (hlawful : operations.Lawful)
    (calls : List GraphCall) :
    let kept := play (grow operations) (fresh operations) calls
    let read := play Workbench.grow {} calls
    kept.2 = read.2 ∧
      (∀ number, (kept.1 number).Coherent operations ∧
        (kept.1 number).Mirrors operations (read.1.graph number) ∧
        ∀ source target, operations.hasEdge (kept.1 number).view source target =
          (read.1.graph number).hasEdge source target) ∧
      Guards operations kept.1 ∧
      ∀ call, (grow operations kept.1 call).2 = (read.1.grow call).2 ∧
        ((grow operations kept.1 call).2.isFailure = true →
          (grow operations kept.1 call).1 = kept.1 ∧
            (read.1.grow call).1 = read.1) := by
  intro kept read
  obtain ⟨hreplies, hmirrors⟩ := mirrors_play hlawful calls
  refine ⟨hreplies, fun number => ?_, hmirrors.guards hlawful, fun call => ?_⟩
  · have hledger := hmirrors.ledger number
    exact ⟨hledger.coherent hlawful, hledger, hledger.hasEdge_eq hlawful⟩
  · have hstays := hmirrors.grow hlawful call
    refine ⟨hstays.reply, fun hfailure => hstays.unchanged ?_⟩
    rw [← hstays.reply]
    exact hfailure

def listed : Multigraph (List Nat × List Line) where
  empty := ([], [])
  addNode view id := if id ∈ view.1 then none else some (id :: view.1, view.2)
  setLine view line := (line.source :: line.target :: view.1,
    line :: view.2.filter fun other =>
      ¬(other.id = line.id ∧ other.source = line.source ∧
        other.target = line.target))
  hasNode view id := decide (id ∈ view.1)
  lines view source target :=
    (view.2.filter fun line =>
      line.source = source ∧ line.target = target).dedup
  hasEdge view source target :=
    view.2.any fun line => line.source = source ∧ line.target = target

theorem listed_lawful : listed.Lawful where
  hasNode_empty _ := rfl
  lines_empty _ _ := rfl
  addNode_eq_none_iff view id := by simp [listed]
  hasNode_addNode view id next hadd other := by
    simp only [listed] at hadd ⊢
    split at hadd
    · cases hadd
    · cases hadd
      simp
  lines_addNode view id next hadd source target line := by
    simp only [listed] at hadd ⊢
    split at hadd
    · cases hadd
    · cases hadd
      rfl
  hasNode_setLine view line id := by simp [listed, Bool.or_assoc]
  lines_setLine view line source target other := by
    simp only [listed, List.mem_dedup, List.mem_filter, List.mem_cons,
      decide_eq_true_eq]
    constructor
    · rintro ⟨rfl | ⟨hmem, hother⟩, rfl, rfl⟩
      · exact .inl ⟨rfl, rfl, rfl⟩
      · exact .inr ⟨⟨hmem, rfl, rfl⟩,
          fun hsame => hother ⟨hsame.1, hsame.2.1.symm, hsame.2.2.symm⟩⟩
    · rintro (⟨rfl, hends⟩ | ⟨⟨hmem, rfl, rfl⟩, hother⟩)
      · exact ⟨.inl rfl, hends⟩
      · exact ⟨.inr
          ⟨hmem, fun hsame => hother ⟨hsame.1, hsame.2.1.symm, hsame.2.2.symm⟩⟩,
            rfl, rfl⟩
  nodup_lines _ _ _ := List.nodup_dedup _
  hasEdge_iff view source target := by
    simp only [listed, List.any_eq_true, decide_eq_true_eq, ne_eq,
      List.dedup_eq_nil, List.filter_eq_nil_iff]
    push Not
    rfl

/-- Two graphs with a label each, a self-loop and two edges side by side, and
among them calls with a label that is used, a node of the other graph, and an
unknown label. -/
def mixedCalls : List GraphCall := [
  .addNode 0 "a" "x", .addNode 0 "b" "", .addNode 1 "c" "x", .addNode 0 "d" "x",
  .addEdge 0 (.label "x") (.label "x"),
  .edge 0 (.label "x") (.node ⟨0, 1, "b"⟩),
  .edge 0 (.label "x") (.node ⟨0, 1, "b"⟩),
  .addEdge 0 (.node ⟨1, 0, "c"⟩) (.label "y"),
  .edge 0 (.label "y") (.label "x")]

theorem coherent_after_mixedCalls :
    listed.Lawful ∧
      (play (grow listed) (fresh listed) mixedCalls).2 = [
        .added 0, .added 1, .added 0, .refused (.duplicateLabel "x"), .added 0,
        .chained, .chained, .refused (.foreignNode "c"),
        .broken (.invalidEdge (.unknownLabel "y"))] ∧
      ∀ number,
        ((play (grow listed) (fresh listed) mixedCalls).1 number).Coherent
          listed := by
  obtain ⟨hreplies, hgraphs, -, -⟩ :=
    coherent_after_calls listed_lawful mixedCalls
  exact ⟨listed_lawful, hreplies.trans rfl, fun number => (hgraphs number).1⟩

end Ledgers

end GenKill
