import GenKill.Graph
import GenKill.Text.Lowercase

/-!
# Directions of flow
-/

namespace GenKill

/-- Where facts come from: predecessors, or successors.  Codes without a meaning
act as forward. -/
inductive Direction where
  | forward
  | backward
  | other (code : Int)
  deriving DecidableEq

namespace Direction

def ofInt : Int → Direction
  | 0 => forward
  | 1 => backward
  | code => other code

def toInt : Direction → Int
  | forward => 0
  | backward => 1
  | other code => code

def text : Direction → Text
  | forward => "forward"
  | backward => "backward"
  | other _ => "Direction(?)"

/-- Reads a direction or its abbreviation, in any case. -/
def ofText (name : Text) : Except Error Direction :=
  let lower := name.lower
  if lower = "forward" ∨ lower = "fwd" then .ok forward
  else if lower = "backward" ∨ lower = "bwd" then .ok backward
  else .error (.invalidDirection name)

/-- The nodes whose out sets flow into a node, one for each edge. -/
def neighbors (direction : Direction) (graph : Graph) (index : Nat) :
    List Nat :=
  if direction = backward then graph.successors index
  else graph.predecessors index

end Direction

end GenKill
