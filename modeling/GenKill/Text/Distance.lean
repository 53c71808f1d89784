import GenKill.Text

/-!
# Edit distance
-/

namespace GenKill.Text

/-- The distances from a text to all beginnings of another, from those of the
text without its last byte.  `corner` is the old distance before the current
column, and `left` the new one. -/
private def nextRow (byte : UInt8) :
    (corner left : Nat) → Text → List Nat → List Nat
  | _, _, [], _ => []
  | _, _, _ :: _, [] => []
  | corner, left, other :: others, above :: row =>
      let here :=
        if byte = other then corner else min corner (min above left) + 1
      here :: nextRow byte above here others row

private def distanceFrom (target : Text) : List Nat → Text → Nat
  | row, [] => row.getLast?.getD 0
  | row, byte :: rest =>
      match row with
      | [] => 0
      | first :: row =>
          distanceFrom target
            ((first + 1) :: nextRow byte first (first + 1) target row) rest

/-- The least number of bytes to insert, delete or replace that turns one text
into another. -/
def distance (source target : Text) : Nat :=
  distanceFrom target (List.range (target.length + 1)) source

end GenKill.Text
