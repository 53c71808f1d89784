import GenKill.Text.Glyph

/-!
# Tables of code points

A character property is data: rows of hexadecimal code points, written as text
so that a table of hundreds of rows stays one literal.  Blanks separate rows,
and any other punctuation separates the numbers of a row.
-/

namespace GenKill.CodePoints

/-- What has been read of a table so far. -/
private structure Reading where
  rows : List (List Nat) := []
  row : List Nat := []
  number : Option Nat := none

private def Reading.endNumber (reading : Reading) : Reading :=
  match reading.number with
  | some number => { reading with row := number :: reading.row, number := none }
  | none => reading

private def Reading.endRow (reading : Reading) : Reading :=
  let reading := reading.endNumber
  if reading.row.isEmpty then reading
  else { rows := reading.row.reverse :: reading.rows }

private def hexValue? (character : Char) : Option Nat :=
  if '0' ≤ character ∧ character ≤ '9' then some (character.toNat - '0'.toNat)
  else if 'a' ≤ character ∧ character ≤ 'f' then
    some (character.toNat - 'a'.toNat + 10)
  else none

private def Reading.step (reading : Reading) (character : Char) : Reading :=
  match hexValue? character with
  | some digit =>
      { reading with number := some (reading.number.getD 0 * 16 + digit) }
  | none => if character.isWhitespace then reading.endRow else reading.endNumber

def rows (table : String) : List (List Nat) :=
  (table.toList.foldl Reading.step {}).endRow.rows.reverse

/-- Rows `low` or `low-high` as a set of code points. -/
def ranges (table : String) : Array (Nat × Nat) :=
  (rows table).filterMap (fun row => match row with
    | [only] => some (only, only)
    | [low, high] => some (low, high)
    | _ => none) |>.toArray

def inRanges (table : Array (Nat × Nat)) (character : Char) : Bool :=
  table.any fun range => range.1 ≤ character.toNat && character.toNat ≤ range.2

end GenKill.CodePoints
