import GenKill.Proofs.Dot.Distinct
import GenKill.Proofs.Graph.Search

/-!
# Naming the nodes of a ledger

A node without a label can be named by a loop that looks its candidates up in
the table of labels, and goes on without a limit as long as it finds them there.
The table is finite and the candidates are new each time, so the loop ends for
every node of every graph that can be built, with the identifier that the
bounded search finds; and all nodes get different identifiers.
-/

namespace GenKill

/-- The loop, which starts with an identifier, puts an underscore behind it in
each of so many rounds, and stops with the first one that is not in the
table. -/
inductive Lengthens (labels : Table Text Nat) : Text → Nat → Text → Prop where
  | stop {id : Text} (hfree : labels.get? id = none) : Lengthens labels id 0 id
  | again {id result : Text} {rounds : Nat}
      (hused : (labels.get? id).isSome = true)
      (hrest : Lengthens labels (id ++ Text.ofString "_") rounds result) :
      Lengthens labels id (rounds + 1) result

/-- The name of a node, and the rounds that it takes to find it: its label, or
what the loop makes of `n` and its number. -/
inductive Ledger.Identifies {View : Type} (ledger : Ledger View)
    (entry : Ledger.Entry) : Nat → Text → Prop where
  | label (hlabel : entry.label ≠ []) : Identifies ledger entry 0 entry.label
  | number {rounds : Nat} {id : Text} (hlabel : entry.label = [])
      (hloop :
        Lengthens ledger.labels (Text.ofString "n" ++ Text.ofNat entry.id)
          rounds id) :
      Identifies ledger entry rounds id

/-! ### The loop -/

namespace Lengthens

variable {labels : Table Text Nat} {id result : Text} {rounds : Nat}

/-- The loop goes on as long as it finds its candidates in the table. -/
theorem of_used
    (hused : ∀ earlier < rounds,
      (labels.get? (Graph.extended id earlier)).isSome = true)
    (hfree : labels.get? (Graph.extended id rounds) = none) :
    Lengthens labels id rounds (Graph.extended id rounds) := by
  have hself : ∀ id, Graph.extended id 0 = id := fun id => List.append_nil id
  induction rounds generalizing id with
  | zero =>
      rw [hself] at hfree ⊢
      exact .stop hfree
  | succ rounds ih =>
      have hfirst := hused 0 (Nat.succ_pos rounds)
      rw [hself] at hfirst
      rw [Graph.extended_succ] at hfree ⊢
      apply again hfirst
      apply ih _ hfree
      intro earlier hlt
      rw [← Graph.extended_succ]
      exact hused (earlier + 1) (Nat.succ_lt_succ hlt)

/-- The loop ends after one number of rounds, with one result. -/
theorem unique {other : Text} {count : Nat}
    (hleft : Lengthens labels id rounds result)
    (hright : Lengthens labels id count other) :
    count = rounds ∧ other = result := by
  induction hleft generalizing count other with
  | stop hfree =>
      cases hright with
      | stop _ => exact ⟨rfl, rfl⟩
      | again hused _ =>
          rw [hfree] at hused
          cases hused
  | again hused _ ih =>
      cases hright with
      | stop hfree =>
          rw [hfree] at hused
          cases hused
      | again _ hrest =>
          obtain ⟨rfl, rfl⟩ := ih hrest
          exact ⟨rfl, rfl⟩

end Lengthens

/-! ### Nodes of a ledger -/

namespace Ledger

variable {View : Type} {operations : Multigraph View} {ledger : Ledger View}
  {graph : Graph} {entry : Entry} {rounds : Nat} {id : Text}

theorem Identifies.unique {other : Text} {count : Nat}
    (hleft : ledger.Identifies entry rounds id)
    (hright : ledger.Identifies entry count other) :
    count = rounds ∧ other = id := by
  cases hleft with
  | label hlabel =>
      cases hright with
      | label _ => exact ⟨rfl, rfl⟩
      | number hnone _ => exact absurd hnone hlabel
  | number hlabel hloop =>
      cases hright with
      | label hsome => exact absurd hlabel hsome
      | number _ hother => exact hloop.unique hother

namespace Mirrors

theorem exists_node (hmirrors : ledger.Mirrors operations graph)
    (hentry : entry ∈ ledger.nodes) :
    ∃ node, graph.nodes[entry.id]? = some node ∧ entry.label = node.label := by
  obtain ⟨index, hindex⟩ := List.mem_iff_getElem?.mp hentry
  rw [hmirrors.getElem?_nodes, Option.map_eq_some_iff] at hindex
  obtain ⟨node, hnode, rfl⟩ := hindex
  exact ⟨node, hnode, rfl⟩

/-- The loop over the labels of a ledger ends, with the identifier of the
node. -/
theorem exists_identifies (hmirrors : ledger.Mirrors operations graph)
    (hentry : entry ∈ ledger.nodes) :
    ∃ rounds < ledger.nodes.length,
      ledger.Identifies entry rounds (graph.dotId entry.id) := by
  obtain ⟨node, hnode, hlabel⟩ := hmirrors.exists_node hentry
  by_cases hnone : entry.label = []
  · have hunlabeled : node.label = [] := hlabel ▸ hnone
    obtain ⟨rounds, -, hfirst, hused, hfree⟩ :=
      graph.firstFree_eq graph.nodes.length
        (Text.ofString "n" ++ Text.ofNat entry.id)
    have hrounds := Graph.lt_length_of_used hnode hunlabeled hused
    have hloop :
        Lengthens ledger.labels (Text.ofString "n" ++ Text.ofNat entry.id)
          rounds (Graph.extended (Text.ofString "n" ++ Text.ofNat entry.id)
            rounds) := by
      apply Lengthens.of_used
      · intro earlier hearlier
        rw [hmirrors.labels]
        exact hused earlier hearlier
      · rw [hmirrors.labels]
        exact hfree hrounds
    rw [Graph.dotId_eq_firstFree hnode hunlabeled, hfirst]
    exact ⟨rounds, hmirrors.length_nodes ▸ hrounds, .number hnone hloop⟩
  · rw [Graph.dotId_of_label hnode (hlabel ▸ hnone), ← hlabel]
    exact ⟨0, List.length_pos_of_mem hentry, .label hnone⟩

theorem map_dotId_nodes (hmirrors : ledger.Mirrors operations graph) :
    (ledger.nodes.map fun entry => graph.dotId entry.id) =
      (List.range graph.size).map graph.dotId := by
  apply List.ext_getElem?
  intro index
  rw [List.getElem?_map, hmirrors.getElem?_nodes, Option.map_map,
    List.getElem?_map]
  by_cases hindex : index < graph.size
  · rw [List.getElem?_range hindex, List.getElem?_eq_getElem hindex]
    rfl
  · rw [List.getElem?_eq_none (Nat.le_of_not_lt hindex), List.getElem?_eq_none]
    · rfl
    · rw [List.length_range]
      exact Nat.le_of_not_lt hindex

/-- No two entries have the same name. -/
theorem nodup_dotIds (hmirrors : ledger.Mirrors operations graph) :
    (ledger.nodes.map fun entry => graph.dotId entry.id).Nodup := by
  rw [hmirrors.map_dotId_nodes]
  apply List.Nodup.map_on _ List.nodup_range
  intro left hleft right hright heq
  exact Graph.dotId_inj (List.mem_range.mp hleft) (List.mem_range.mp hright) heq

end Mirrors

end Ledger

/-! ### Graphs that calls build -/

/-- The graph with some number, after calls to new graphs. -/
def Graph.built (calls : List GraphCall) (number : Nat) : Graph :=
  (play Workbench.grow {} calls).1.graph number

/-- The ledger of that graph. -/
def Ledger.built {View : Type} (operations : Multigraph View)
    (calls : List GraphCall) (number : Nat) : Ledger View :=
  (play (Ledgers.grow operations) (Ledgers.fresh operations) calls).1 number

/-- Whatever calls have built a graph, the loop ends for each of its nodes after
fewer rounds than there are nodes, with one identifier, which is not empty; and
no two nodes have the same. -/
theorem dotIds_total_unique {View : Type} {operations : Multigraph View}
    (hlawful : operations.Lawful) (calls : List GraphCall) (number : Nat) :
    (∀ entry ∈ (Ledger.built operations calls number).nodes,
      ∃ rounds < (Ledger.built operations calls number).nodes.length,
        (∀ count id,
          (Ledger.built operations calls number).Identifies entry count id ↔
            count = rounds ∧ id = (Graph.built calls number).dotId entry.id) ∧
        (Graph.built calls number).dotId entry.id ≠ []) ∧
      ((Ledger.built operations calls number).nodes.map fun entry =>
        (Graph.built calls number).dotId entry.id).Nodup := by
  have hmirrors : (Ledger.built operations calls number).Mirrors operations
      (Graph.built calls number) :=
    (Ledgers.mirrors_play hlawful calls).2.ledger number
  refine ⟨fun entry hentry => ?_, hmirrors.nodup_dotIds⟩
  obtain ⟨rounds, hrounds, hidentifies⟩ := hmirrors.exists_identifies hentry
  obtain ⟨node, hnode, -⟩ := hmirrors.exists_node hentry
  refine ⟨rounds, hrounds, fun count id => ?_, ?_⟩
  · constructor
    · exact hidentifies.unique
    · rintro ⟨rfl, rfl⟩
      exact hidentifies
  · exact Graph.dotId_ne_nil (List.getElem?_eq_some_iff.mp hnode).1

/-- Thirteen nodes, the labels of which are in the way of the identifiers of the
second node and of the last one. -/
def crowdedCalls : List GraphCall :=
  ["n1", "", "n1_", "n12", "n12__", "", "", "", "", "", "", "n5", ""].map
    fun label => .addNode 0 "" (Text.ofString label)

theorem dotIds_total_unique_crowded :
    Ledgers.listed.Lawful ∧
      (∃ entry ∈ (Ledger.built Ledgers.listed crowdedCalls 0).nodes,
        ∃ rounds < 13, ∀ count id,
          (Ledger.built Ledgers.listed crowdedCalls 0).Identifies entry count
              id ↔
            count = rounds ∧ id = Text.ofString "n1__") ∧
      ((Ledger.built Ledgers.listed crowdedCalls 0).nodes.map fun entry =>
        (Graph.built crowdedCalls 0).dotId entry.id).Nodup := by
  obtain ⟨hidentifies, hnodup⟩ :=
    dotIds_total_unique Ledgers.listed_lawful crowdedCalls 0
  have hentry : (Ledger.built Ledgers.listed crowdedCalls 0).nodes[1]? =
      some { id := 1, name := [], label := [] } := by rfl
  have hdotId : (Graph.built crowdedCalls 0).dotId 1 =
      Text.ofString "n1__" := by decide +kernel
  have hmem := List.mem_of_getElem? hentry
  obtain ⟨rounds, hrounds, hiff, -⟩ := hidentifies _ hmem
  have hlength : (Ledger.built Ledgers.listed crowdedCalls 0).nodes.length =
      13 := by decide +kernel
  rw [hlength] at hrounds
  rw [hdotId] at hiff
  exact ⟨Ledgers.listed_lawful, ⟨_, hmem, rounds, hrounds, hiff⟩, hnodup⟩

end GenKill
