import GenKill.Proofs.Graph
import GenKill.Proofs.System
import GenKill.Proofs.Table
import GenKill.Session
import Mathlib.Data.List.Perm.Basic

/-!
# What a snapshot shows

A snapshot lists the out sets of a graph by label.  No two nodes share a label,
so it has one entry for each labeled node, and no other.
-/

namespace GenKill

/-- The labels in use, in the order of the nodes. -/
def Graph.labels (graph : Graph) : List Text :=
  (graph.nodes.map Node.label).filter fun label => label ≠ []

namespace Session

end Session

end GenKill
