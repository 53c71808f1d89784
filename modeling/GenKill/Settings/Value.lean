import GenKill.Number
import GenKill.Text.Integer
import GenKill.Text.Lowercase

/-!
# Values of settings

A setting may come from a flag, from the environment or from a file, so its
value may have another type than the setting.  Every value can be read as every
type; what cannot be converted reads as zero, false or nothing.
-/

namespace GenKill.Settings

inductive Value where
  | null
  | truth (value : Bool)
  /-- A whole number, which is also a truth value. -/
  | integer (value : Int)
  /-- A number that is no truth value. -/
  | number (value : Number)
  /-- A whole number that takes 64 bits without a sign; no truth value
  either. -/
  | wide (value : Nat)
  /-- The result of an undefined operation on numbers. -/
  | undefined
  | text (value : Text)
  | list (items : List Value)
  | record (entries : List (Text × Value))

namespace Value

/-- The least number of 64 bits. -/
def least : Int := -0x8000000000000000

/-- A whole number that is no truth value, with all of its digits. -/
def whole (value : Int) : Value :=
  if value < -least then
    .number ⟨value < 0, .finite value.natAbs 0, Number.indexPrecision⟩
  else .wide value.toNat

def infinite (negative : Bool) : Value :=
  .number ⟨negative, .infinite, Number.doublePrecision⟩

def toText : Value → Text
  | .truth value => Text.ofBool value
  | .integer value => Text.ofInt value
  | .number value => value.text
  | .wide value => Text.ofNat value
  | .undefined => "NaN"
  | .text value => value
  | _ => []

/-- The text without a point and the zeros after it. -/
def dropZeroFraction (value : Text) : Text :=
  match value.reverse.dropWhile (· = Text.byte '0') with
  | 46 :: rest =>
      if value.getLast? = some (Text.byte '0') then rest.reverse else value
  | _ => value

/-- The number in a text; zero if there is none. -/
def integerOfText (value : Text) : Int :=
  match Integer.ofText (dropZeroFraction value) with
  | .ok result => result
  | .error _ => 0

/-- The whole part; numbers beyond 64 bits read as the least of that width. -/
def wholePart (value : Number) : Int :=
  match value.magnitude with
  | .infinite => least
  | .finite _ _ =>
      if least ≤ value.toInt ∧ value.toInt < -least then value.toInt else least

def toInt : Value → Int
  | .truth value => if value then 1 else 0
  | .integer value => value
  | .number value => wholePart value
  | .wide value => value + 2 * least
  | .undefined => least
  | .text value => integerOfText value
  | _ => 0

/-- Negative numbers read as zero, and so do those beyond 64 bits. -/
def toNat : Value → Nat
  | .wide value => value
  | .number value =>
      match value.magnitude with
      | .infinite => 0
      | .finite _ _ =>
          if value.toInt < 0x10000000000000000 then value.toInt.toNat else 0
  | value => value.toInt.toNat

def toBool : Value → Bool
  | .truth value => value
  | .integer value => value ≠ 0
  | .text value => value.truth?.getD false
  | _ => false

mutual

/-- All names of entries in lower case. -/
def lowered : Value → Value
  | .record entries => .record (loweredEntries entries)
  | value => value

def loweredEntries : List (Text × Value) → List (Text × Value)
  | [] => []
  | (name, value) :: rest => (name.lower, value.lowered) :: loweredEntries rest

end

/-- The last entry with a name, unless it is null. -/
def entry? (value : Value) (name : Text) : Option Value :=
  match value with
  | .record entries =>
      match entries.reverse.lookup name with
      | some .null => none
      | found => found
  | _ => none

def isRecord : Value → Bool
  | .record _ => true
  | _ => false

/-- The value of a setting whose name may have two parts, as in `group.name`: an
entry of that name, or else the entry `name` of a record `group`. -/
def find? (value : Value) (name : Text) : Option Value :=
  match value.entry? name with
  | some found => some found
  | none =>
      match name.splitOn (Text.byte '.') with
      | [group, name] =>
          (value.entry? group).bind fun record => record.entry? name
      | _ => none

/-- A value in the place of the record that a setting belongs to hides the
setting. -/
def hides (value : Value) (name : Text) : Bool :=
  match name.splitOn (Text.byte '.') with
  | [group, _] => (value.entry? group).any fun found => !found.isRecord
  | _ => false

end Value

end GenKill.Settings
