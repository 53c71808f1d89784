import GenKill.FactSet
import GenKill.Graph

/-!
# Set-valued properties of nodes

A property gives a set to every node of every graph: the default, unless a value
was set.
-/

namespace GenKill

structure Property where
  name : Text
  default : FactSet
  values : Table Site FactSet := .empty

namespace Property

def get (property : Property) (site : Site) : FactSet :=
  (property.values.get? site).getD property.default

def set (property : Property) (site : Site) (value : FactSet) : Property :=
  { property with values := property.values.insert site value }

/-- Forgets all values that were set. -/
def clear (property : Property) : Property := { property with values := .empty }

/-- The values that were set at nodes of a graph, by number. -/
def explicit (property : Property) (graph : Graph) : List (Nat × FactSet) :=
  (List.range graph.size).filterMap fun index =>
    (property.values.get? (graph.site index)).map fun value => (index, value)

/-- The current values at the labeled nodes of a graph. -/
def byLabel (property : Property) (graph : Graph) : Table Text FactSet :=
  Table.ofList (graph.nodes.zipIdx.filterMap fun (node, index) =>
    if node.label = [] then none
    else some (node.label, property.get (graph.site index)))

end Property

end GenKill
