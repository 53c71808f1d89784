import GenKill.Text

/-!
# Integer literals

An integer may have a sign, a mark for its base (`0x`, `0o`, `0b`, or just a
zero for base eight) and underscores between its digits.
-/

namespace GenKill.Integer

/-- Why a text is no integer.  What comes first in the text decides: a text may
be too large before it turns out not to be a number. -/
inductive Problem where
  | invalid
  | outOfRange

/-- The value of a digit in bases up to 36. -/
def digit? (byte : UInt8) : Option Nat :=
  if 48 ≤ byte ∧ byte ≤ 57 then some (byte.toNat - 48)
  else if 97 ≤ byte ∧ byte ≤ 122 then some (byte.toNat - 87)
  else if 65 ≤ byte ∧ byte ≤ 90 then some (byte.toNat - 55)
  else none

/-- The base of an unsigned literal, and its digits. -/
def base : Text → Nat × Text
  | [48] => (8, [])
  | 48 :: mark :: rest =>
      if rest ≠ [] ∧ (mark = 98 ∨ mark = 66) then (2, rest)
      else if rest ≠ [] ∧ (mark = 111 ∨ mark = 79) then (8, rest)
      else if rest ≠ [] ∧ (mark = 120 ∨ mark = 88) then (16, rest)
      else (8, mark :: rest)
  | text => (10, text)

/-- The value of digits that follow a value. -/
def digits (base limit : Nat) : Nat → Text → Except Problem Nat
  | value, [] => .ok value
  | value, head :: tail =>
      if head = 95 then digits base limit value tail
      else match digit? head with
        | none => .error .invalid
        | some digit =>
            if base ≤ digit then .error .invalid
            else
              let next := value * base + digit
              if limit < next then .error .outOfRange
              else digits base limit next tail

/-- Every underscore stands between digits; the mark of a base counts as one. -/
def underscoresFit : (afterDigit : Bool) → Text → Bool
  | _, [] => true
  | afterDigit, 95 :: tail =>
      match tail with
      | [] => false
      | next :: _ => afterDigit && next ≠ 95 && underscoresFit false tail
  | _, _ :: tail => underscoresFit true tail

/-- The text after the mark of a base, and whether there is such a mark. -/
def afterMark : Text → Bool × Text
  | 48 :: mark :: rest =>
      if mark ∈ [98, 66, 111, 79, 120, 88] then (true, rest)
      else (false, 48 :: mark :: rest)
  | text => (false, text)

/-- An unsigned literal of at most `limit`. -/
def natural (limit : Nat) (text : Text) : Except Problem Nat :=
  if text = [] then .error .invalid
  else
    let (base, body) := base text
    match digits base limit 0 body with
    | .error problem => .error problem
    | .ok value =>
        let (marked, rest) := afterMark text
        if text.contains 95 && !underscoresFit marked rest then .error .invalid
        else .ok value

/-- A signed literal of 64 bits. -/
def ofText (text : Text) : Except Problem Int :=
  match text with
  | 45 :: unsigned =>
      match natural 0xffffffffffffffff unsigned with
      | .error problem => .error problem
      | .ok value =>
          if 0x8000000000000000 < value then .error .outOfRange
          else .ok (-(value : Int))
  | _ =>
      let unsigned := match text with
        | 43 :: rest => rest
        | _ => text
      match natural 0xffffffffffffffff unsigned with
      | .error problem => .error problem
      | .ok value =>
          if 0x8000000000000000 ≤ value then .error .outOfRange else .ok value

end GenKill.Integer

namespace GenKill

/-- The texts that stand for truth values in flags and settings. -/
def Text.truth? (text : Text) : Option Bool :=
  if text ∈ (["1", "t", "T", "TRUE", "true", "True"] : List Text) then some true
  else if text ∈ (["0", "f", "F", "FALSE", "false", "False"] : List Text) then
    some false
  else none

end GenKill
