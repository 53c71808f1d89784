import GenKill.Graph

/-!
# Reachable nodes

A depth-first walk along the edges.  The walk ends because every step either
shrinks the stack or visits one of the finitely many nodes for the first time.
-/

namespace GenKill.Graph

/-- Numbers below the size of the graph that are not in the list. -/
def unvisited (graph : Graph) (visited : List Nat) : List Nat :=
  (List.range graph.size).filter fun index => !visited.contains index

theorem length_unvisited_cons {graph : Graph} {visited : List Nat} {index : Nat}
    (hindex : index < graph.size) (hnew : index ∉ visited) :
    (graph.unvisited (index :: visited)).length <
      (graph.unvisited visited).length := by
  have hmem : index ∈ graph.unvisited visited := by
    simp [unvisited, hindex, hnew]
  have hfilter : graph.unvisited (index :: visited) =
      (graph.unvisited visited).filter fun other => other ≠ index := by
    simp only [unvisited, List.filter_filter]
    congr 1
    funext other
    by_cases hother : other = index <;> simp [hother]
  rw [hfilter]
  exact List.length_filter_lt_length_iff_exists.mpr ⟨index, hmem, by simp⟩

/-- The nodes visited once the stack is empty. -/
def walk (graph : Graph) (visited : List Nat) : List Nat → List Nat
  | [] => visited
  | index :: stack =>
      if index < graph.size ∧ index ∉ visited then
        graph.walk (index :: visited)
          ((graph.successors index).reverse ++ stack)
      else graph.walk visited stack
termination_by stack => ((graph.unvisited visited).length, stack.length)
decreasing_by
  · rename_i hvisit
    exact Prod.Lex.left _ _ (length_unvisited_cons hvisit.1 hvisit.2)
  · exact Prod.Lex.right _ (by simp)

def reachable (graph : Graph) (start : Nat) : List Nat := graph.walk [] [start]

/-- The nodes without a path from `start`, in order. -/
def unreachable (graph : Graph) (start : Nat) : List Nat :=
  let reached := graph.reachable start
  (List.range graph.size).filter fun index => !reached.contains index

/-- The nodes without a path from the entry. -/
def unreachableFromEntry (graph : Graph) : List Nat :=
  match graph.entry? with
  | some start => graph.unreachable start
  | none => []

end GenKill.Graph
