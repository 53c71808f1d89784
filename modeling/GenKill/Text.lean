import GenKill.Table

/-!
# Byte texts

Names, labels, attribute values and file contents are byte strings: nothing
makes them UTF-8.  A `Text` is therefore a list of bytes, and a string literal
stands for its UTF-8 bytes.
-/

namespace GenKill

abbrev Text := List UInt8

namespace Text

def ofString (literal : String) : Text := literal.toUTF8.data.toList

instance : Coe String Text := ⟨ofString⟩

instance : LawfulBEq UInt8 := inferInstance

instance : LawfulBEq Text := inferInstance

/-- The byte of an ASCII character. -/
@[inline]
def byte (character : Char) : UInt8 := character.toUInt8

/-- Bytewise lexicographic order. -/
def before : Text → Text → Bool
  | _, [] => false
  | [], _ :: _ => true
  | left :: lefts, right :: rights =>
      if left = right then before lefts rights else decide (left < right)

theorem before_irrefl (text : Text) : before text text = false := by
  induction text with
  | nil => rfl
  | cons head tail ih => simpa [before] using ih

theorem before_trans {first second third : Text}
    (hleft : before first second = true) (hright : before second third = true) :
    before first third = true := by
  induction first generalizing second third with
  | nil =>
      cases third with
      | nil => simp [before] at hright
      | cons _ _ => rfl
  | cons head tail ih =>
      cases second with
      | nil => simp [before] at hleft
      | cons head' tail' =>
          cases third with
          | nil => simp [before] at hright
          | cons head'' tail'' =>
              simp only [before] at hleft hright ⊢
              by_cases hfirst : head = head'
              · subst hfirst
                rw [if_pos rfl] at hleft
                by_cases hsecond : head = head''
                · subst hsecond
                  rw [if_pos rfl] at hright ⊢
                  exact ih hleft hright
                · rw [if_neg hsecond] at hright ⊢
                  exact hright
              · rw [if_neg hfirst] at hleft
                by_cases hsecond : head' = head''
                · subst hsecond
                  rw [if_neg hfirst]
                  exact hleft
                · rw [if_neg hsecond] at hright
                  have hlt : head < head'' :=
                    UInt8.lt_trans (of_decide_eq_true hleft)
                      (of_decide_eq_true hright)
                  rw [if_neg (UInt8.ne_of_lt hlt)]
                  exact decide_eq_true hlt

theorem before_total {left right : Text} (hne : left ≠ right)
    (hbefore : before left right = false) : before right left = true := by
  induction left generalizing right with
  | nil =>
      cases right with
      | nil => exact absurd rfl hne
      | cons _ _ => simp [before] at hbefore
  | cons head tail ih =>
      cases right with
      | nil => rfl
      | cons head' tail' =>
          simp only [before] at hbefore ⊢
          by_cases hhead : head = head'
          · subst hhead
            rw [if_pos rfl] at hbefore ⊢
            exact ih (fun heq => hne (by rw [heq])) hbefore
          · rw [if_neg hhead] at hbefore
            rw [if_neg (Ne.symm hhead)]
            have hnot := of_decide_eq_false hbefore
            exact decide_eq_true
              (UInt8.lt_of_le_of_ne (UInt8.not_lt.mp hnot) (Ne.symm hhead))

instance : Key Text where
  before := before
  before_irrefl := before_irrefl
  before_trans := before_trans
  before_total := before_total

/-- The pieces with the separator between them. -/
def join (separator : Text) : List Text → Text
  | [] => []
  | [piece] => piece
  | piece :: next :: rest => piece ++ separator ++ join separator (next :: rest)

/-- The pieces between the occurrences of a byte; at least one piece. -/
def splitOn (separator : UInt8) : Text → List Text
  | [] => [[]]
  | head :: tail =>
      if head = separator then [] :: splitOn separator tail
      else match splitOn separator tail with
        | [] => [[head]]
        | piece :: pieces => (head :: piece) :: pieces

/-- The text after a leading piece, if it starts so. -/
def dropStart? : Text → Text → Option Text
  | text, [] => some text
  | [], _ :: _ => none
  | head :: tail, lead :: leads =>
      if lead = head then dropStart? tail leads else none

def startsWith (text lead : Text) : Bool := (dropStart? text lead).isSome

def endsWith (text tail : Text) : Bool := startsWith text.reverse tail.reverse

/-- The decimal digits of a number. -/
def ofNat (number : Nat) : Text :=
  if number < 10 then [48 + number.toUInt8]
  else ofNat (number / 10) ++ [48 + (number % 10).toUInt8]
termination_by number

def ofInt : Int → Text
  | .ofNat number => ofNat number
  | .negSucc number => byte '-' :: ofNat (number + 1)

def ofBool (value : Bool) : Text := if value then "true" else "false"

def hexDigit (value : Nat) : UInt8 :=
  if value < 10 then 48 + value.toUInt8 else 87 + value.toUInt8

/-- The lowest `width` hexadecimal digits of a number, in lower case. -/
def hex (width number : Nat) : Text :=
  match width with
  | 0 => []
  | width + 1 => hex width (number / 16) ++ [hexDigit (number % 16)]

end Text

end GenKill
