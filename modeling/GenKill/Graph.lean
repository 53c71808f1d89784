import GenKill.Error

/-!
# Control flow graphs

Nodes and edges are numbered in the order in which they are added, and that
order is also the order in which analyses visit the nodes.  Cycles, self-loops
and parallel edges are allowed.  A label, if a node has one, names that node
alone.  Edge ends are node numbers, so predecessors and successors are read off
the edges and cannot disagree with them.
-/

namespace GenKill

abbrev Attributes := Table Text Text

structure Node where
  name : Text
  /-- Empty for a node without a label. -/
  label : Text
  attributes : Attributes := .empty
  deriving DecidableEq

structure Edge where
  source : Nat
  target : Nat
  attributes : Attributes := .empty
  deriving DecidableEq

/-- Each label that is not empty occurs once. -/
def LabelsDistinct (nodes : List Node) : Prop :=
  nodes.Pairwise fun left right => left.label = right.label → left.label = []

instance (nodes : List Node) : Decidable (LabelsDistinct nodes) :=
  inferInstanceAs (Decidable (List.Pairwise _ _))

/-- A graph; `ident` tells graphs with equal contents apart. -/
structure Graph where
  ident : Nat
  /-- The name of the graph in its DOT text, empty if it has none. -/
  title : Text := []
  attributes : Attributes := .empty
  nodes : List Node := []
  edges : List Edge := []
  ends_lt : ∀ edge ∈ edges,
    edge.source < nodes.length ∧ edge.target < nodes.length := by simp
  labels_distinct : LabelsDistinct nodes := by simp [LabelsDistinct]

/-- A node of some graph, as values attached to nodes refer to it. -/
structure Site where
  graph : Nat
  index : Nat
  name : Text
  deriving DecidableEq

/-- An edge end: a node, or the label of one. -/
inductive Ref where
  | node (site : Site)
  | label (label : Text)
  deriving DecidableEq

namespace Site

/-- By graph, then by number. -/
def before (left right : Site) : Bool :=
  decide (left.graph < right.graph ∨ left.graph = right.graph ∧
    (left.index < right.index ∨ left.index = right.index ∧
      Text.before left.name right.name = true))

theorem before_irrefl (site : Site) : before site site = false := by
  simp [before, Text.before_irrefl]

theorem before_trans {first second third : Site}
    (hleft : before first second = true) (hright : before second third = true) :
    before first third = true := by
  simp only [before, decide_eq_true_eq] at *
  rcases hleft with hleft | ⟨hgraph, hleft | ⟨hindex, hleft⟩⟩ <;>
    rcases hright with hright | ⟨hgraph', hright | ⟨hindex', hright⟩⟩
  all_goals try (left; omega)
  all_goals right; refine ⟨by omega, ?_⟩
  all_goals try (left; omega)
  exact Or.inr ⟨by omega, Text.before_trans hleft hright⟩

theorem before_total {left right : Site} (hne : left ≠ right)
    (hbefore : before left right = false) : before right left = true := by
  simp only [before, decide_eq_true_eq, decide_eq_false_iff_not] at *
  by_cases hgraph : left.graph = right.graph
  · refine Or.inr ⟨hgraph.symm, ?_⟩
    by_cases hindex : left.index = right.index
    · refine Or.inr ⟨hindex.symm, Text.before_total (fun hname => hne ?_) ?_⟩
      · cases left; cases right; simp_all
      · simpa [hgraph, hindex] using hbefore
    · exact Or.inl (by omega)
  · exact Or.inl (by omega)

instance : Key Site where
  before := before
  before_irrefl := before_irrefl
  before_trans := before_trans
  before_total := before_total

end Site

namespace Graph

/-- The graph without nodes. -/
def empty (ident : Nat) (title : Text := [])
    (attributes : Attributes := .empty) : Graph :=
  { ident, title, attributes }

def size (graph : Graph) : Nat := graph.nodes.length

/-- The node with a number. -/
def site (graph : Graph) (index : Nat) : Site :=
  ⟨graph.ident, index, (graph.nodes[index]?.map Node.name).getD []⟩

/-- The nodes in order. -/
def sites (graph : Graph) : List Site := (List.range graph.size).map graph.site

/-- The number of the node with a label. -/
def find? (graph : Graph) (label : Text) : Option Nat :=
  if label = [] then none
  else graph.nodes.findIdx? fun node => node.label = label

theorem lt_of_find? {graph : Graph} {label : Text} {index : Nat}
    (hfind : graph.find? label = some index) : index < graph.nodes.length := by
  simp only [find?] at hfind
  split at hfind
  · simp at hfind
  · exact (List.findIdx?_eq_some_iff_findIdx_eq.mp hfind).1

def find (graph : Graph) (label : Text) : Except Error Nat :=
  match graph.find? label with
  | some index => .ok index
  | none => .error (.unknownLabel label)

/-- The predecessors of a node, one for each edge into it. -/
def predecessors (graph : Graph) (index : Nat) : List Nat :=
  graph.edges.filterMap fun edge =>
    if edge.target = index then some edge.source else none

/-- The successors of a node, one for each edge out of it. -/
def successors (graph : Graph) (index : Nat) : List Nat :=
  graph.edges.filterMap fun edge =>
    if edge.source = index then some edge.target else none

def hasEdge (graph : Graph) (source target : Nat) : Bool :=
  graph.edges.any fun edge => edge.source = source ∧ edge.target = target

/-- The first node, where control enters. -/
def entry? (graph : Graph) : Option Nat :=
  if graph.nodes.isEmpty then none else some 0

/-! ### Growing a graph -/

private theorem labels_distinct_append {nodes : List Node} {node : Node}
    (hdistinct : LabelsDistinct nodes)
    (hfresh : node.label ≠ [] → ∀ other ∈ nodes, other.label ≠ node.label) :
    LabelsDistinct (nodes ++ [node]) := by
  rw [LabelsDistinct, List.pairwise_append]
  refine ⟨hdistinct, by simp, fun other hother last hlast heq => ?_⟩
  rw [List.mem_singleton] at hlast
  subst hlast
  by_cases hlabel : last.label = []
  · rw [heq, hlabel]
  · exact absurd heq (hfresh hlabel other hother)

/-- The graph with one more node; the new node's number is the old size. -/
def addNode (graph : Graph) (name label : Text) : Except Error Graph :=
  if hused : label ≠ [] ∧ ∃ node ∈ graph.nodes, node.label = label then
    .error (.duplicateLabel label)
  else
    .ok { graph with
      nodes := graph.nodes ++ [{ name, label }]
      ends_lt := fun edge hedge => by
        have hends := graph.ends_lt edge hedge
        simp only [List.length_append, List.length_singleton]
        omega
      labels_distinct := labels_distinct_append graph.labels_distinct
        fun hlabel other hother heq => hused ⟨hlabel, other, hother, heq⟩ }

/-- The number of the node that an edge end means. -/
def resolve (graph : Graph) : Ref → Except Error (Fin graph.nodes.length)
  | .node site =>
      if hown : site.index < graph.nodes.length ∧
          graph.site site.index = site then
        .ok ⟨site.index, hown.1⟩
      else .error (.foreignNode site.name)
  | .label label =>
      match hfind : graph.find? label with
      | some index => .ok ⟨index, lt_of_find? hfind⟩
      | none => .error (.unknownLabel label)

/-- The graph with one more edge, between nodes given by number. -/
def connect (graph : Graph) (source target : Fin graph.nodes.length)
    (attributes : Attributes := .empty) : Graph :=
  { graph with
    edges := graph.edges ++ [{ source, target, attributes }]
    ends_lt := fun edge hedge => by
      rw [List.mem_append, List.mem_singleton] at hedge
      rcases hedge with hedge | rfl
      · exact graph.ends_lt edge hedge
      · exact ⟨source.isLt, target.isLt⟩ }

/-- Adds an edge between two ends, or says which end is wrong, the source
first. -/
def addEdge (graph : Graph) (source target : Ref) : Except Error Graph :=
  match graph.resolve source with
  | .error error => .error error
  | .ok source =>
      match graph.resolve target with
      | .error error => .error error
      | .ok target => .ok (graph.connect source target)

/-- Adds nodes, given by name and label, one after the other. -/
def addNodes (graph : Graph) : List (Text × Text) → Except Error Graph
  | [] => .ok graph
  | entry :: rest =>
      match graph.addNode entry.1 entry.2 with
      | .error error => .error error
      | .ok graph => graph.addNodes rest

/-- Adds edges, given by the labels of their ends, one after the other. -/
def addEdges (graph : Graph) : List (Text × Text) → Except Error Graph
  | [] => .ok graph
  | ends :: rest =>
      match graph.addEdge (.label ends.1) (.label ends.2) with
      | .error error => .error error
      | .ok graph => graph.addEdges rest

/-! ### Names and attributes -/

def withTitle (graph : Graph) (title : Text) : Graph := { graph with title }

def withAttributes (graph : Graph) (attributes : Attributes) : Graph :=
  { graph with attributes }

/-- The graph with the attributes of every node replaced; numbers, names and
labels stay. -/
def mapAttributes (graph : Graph) (change : Nat → Node → Attributes) : Graph :=
  { graph with
    nodes := graph.nodes.mapIdx fun index node =>
      { node with attributes := change index node }
    ends_lt := by simpa using graph.ends_lt
    labels_distinct := by
      have hdistinct := graph.labels_distinct
      rw [LabelsDistinct, List.pairwise_iff_getElem] at hdistinct ⊢
      intro left right hleft hright hlt
      simpa using hdistinct left right (by simpa using hleft)
        (by simpa using hright) hlt }

/-- The graph with the attributes of its edges replaced; ends stay. -/
def mapEdgeAttributes (graph : Graph) (change : Nat → Edge → Attributes) :
    Graph :=
  { graph with
    edges := graph.edges.mapIdx fun index edge =>
      { edge with attributes := change index edge }
    ends_lt := by
      intro edge hedge
      simp only [List.mem_mapIdx] at hedge
      obtain ⟨index, hindex, rfl⟩ := hedge
      have hends := graph.ends_lt graph.edges[index] (List.getElem_mem hindex)
      exact hends }

def firstFree (graph : Graph) : Nat → Text → Text
  | 0, id => id
  | tries + 1, id =>
      if (graph.find? id).isSome then firstFree graph tries (id ++ "_") else id

/-- What names a node in DOT text: its label, or else `n` and its number, with
as many underscores as it takes to differ from every label. -/
def dotId (graph : Graph) (index : Nat) : Text :=
  match graph.nodes[index]? with
  | none => []
  | some node =>
      if node.label ≠ [] then node.label
      else firstFree graph graph.nodes.length ("n" ++ Text.ofNat index)

end Graph

/-- The attributes of a node in DOT text: its name as `label`, then its own. -/
def Node.shownAttributes (node : Node) : List (Text × Text) :=
  if node.name = [] then node.attributes.entries
  else ("label", node.name) :: node.attributes.entries

end GenKill
