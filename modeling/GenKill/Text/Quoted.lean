import GenKill.Text.Printable

/-!
# Quoted texts

A quoted text stands between double quotes.  Printable characters stand for
themselves; all others are escaped, and so are quotes and backslashes, so that a
quoted text is one line of printable characters whatever the bytes are.  Reading
also accepts escapes that writing never produces.
-/

namespace GenKill.Quoted

def quoteByte : UInt8 := Text.byte '"'

/-- The letter that follows the backslash in the escape of a control
character. -/
def letterOf? (character : Char) : Option Char :=
  match character.toNat with
  | 7 => some 'a'
  | 8 => some 'b'
  | 12 => some 'f'
  | 10 => some 'n'
  | 13 => some 'r'
  | 9 => some 't'
  | 11 => some 'v'
  | _ => none

/-- `\x`, `\u` or `\U` with as many digits as the code point needs. -/
def numeric (point : Nat) : Text :=
  if point < 0x80 then "\\x" ++ Text.hex 2 point
  else if point < 0x10000 then "\\u" ++ Text.hex 4 point
  else "\\U" ++ Text.hex 8 point

/-- A character inside quotes; `mark` is the quote that has to be escaped. -/
def escapeChar (mark character : Char) : Text :=
  if character = mark ∨ character = '\\' then Text.ofChars ['\\', character]
  else if isPrintable character then Text.ofChars [character]
  else match letterOf? character with
    | some letter => Text.ofChars ['\\', letter]
    | none => numeric character.toNat

def escape : Glyph → Text
  | .char character => escapeChar '"' character
  | .stray byte => "\\x" ++ Text.hex 2 byte.toNat

/-- What one escape stands for: the character after the backslash has been
read. -/
def letterValue? (letter : Char) : Option UInt8 :=
  match letter with
  | 'a' => some 7
  | 'b' => some 8
  | 'f' => some 12
  | 'n' => some 10
  | 'r' => some 13
  | 't' => some 9
  | 'v' => some 11
  | '\\' => some (Text.byte '\\')
  | '"' => some quoteByte
  | _ => none

def hexValue? (character : Char) : Option Nat :=
  if '0' ≤ character ∧ character ≤ '9' then some (character.toNat - '0'.toNat)
  else if 'a' ≤ character ∧ character ≤ 'f' then
    some (character.toNat - 'a'.toNat + 10)
  else if 'A' ≤ character ∧ character ≤ 'F' then
    some (character.toNat - 'A'.toNat + 10)
  else none

def octalValue? (character : Char) : Option Nat :=
  if '0' ≤ character ∧ character ≤ '7' then some (character.toNat - '0'.toNat)
  else none

/-- The number written by exactly `count` digits at the start of a list of
glyphs. -/
def digits? (value? : Char → Option Nat) (base : Nat) :
    Nat → Nat → List Glyph → Option (Nat × List Glyph)
  | 0, number, rest => some (number, rest)
  | count + 1, number, .char character :: rest =>
      match value? character with
      | some digit => digits? value? base count (number * base + digit) rest
      | none => none
  | _ + 1, _, _ => none

theorem length_digits? {value? : Char → Option Nat}
    {base count number result : Nat} {glyphs rest : List Glyph}
    (hdigits : digits? value? base count number glyphs = some (result, rest)) :
    rest.length ≤ glyphs.length := by
  induction count generalizing number glyphs with
  | zero =>
      simp only [digits?, Option.some.injEq, Prod.mk.injEq] at hdigits
      exact Nat.le_of_eq (by rw [hdigits.2])
  | succ count ih =>
      cases glyphs with
      | nil => simp [digits?] at hdigits
      | cons head tail =>
          cases head with
          | stray byte => simp [digits?] at hdigits
          | char character =>
              simp only [digits?] at hdigits
              split at hdigits
              · exact Nat.le_trans (ih hdigits) (Nat.le_succ _)
              · simp at hdigits

/-- The bytes of a code point given by number; none for a surrogate or a number
out of range. -/
def pointBytes? (number : Nat) : Option Text :=
  if number.isValidChar then some (String.utf8EncodeChar (Char.ofNat number))
  else none

/-- Reads the escape after a backslash: its bytes and the glyphs after it. -/
def readEscape : List Glyph → Option (Text × List Glyph)
  | .char 'x' :: rest =>
      (digits? hexValue? 16 2 0 rest).map fun (number, rest) =>
        ([number.toUInt8], rest)
  | .char 'u' :: rest =>
      match digits? hexValue? 16 4 0 rest with
      | some (number, rest) =>
          (pointBytes? number).map fun bytes => (bytes, rest)
      | none => none
  | .char 'U' :: rest =>
      match digits? hexValue? 16 8 0 rest with
      | some (number, rest) =>
          (pointBytes? number).map fun bytes => (bytes, rest)
      | none => none
  | .char character :: rest =>
      match letterValue? character with
      | some byte => some ([byte], rest)
      | none =>
          match digits? octalValue? 8 3 0 (.char character :: rest) with
          | some (number, rest) =>
              if number ≤ 255 then some ([number.toUInt8], rest) else none
          | none => none
  | _ => none

theorem length_readEscape {glyphs rest : List Glyph} {bytes : Text}
    (hread : readEscape glyphs = some (bytes, rest)) :
    rest.length ≤ glyphs.length := by
  unfold readEscape at hread
  split at hread
  · simp only [Option.map_eq_some_iff, Prod.exists, Prod.mk.injEq] at hread
    obtain ⟨number, rest', hdigits, -, rfl⟩ := hread
    exact Nat.le_trans (length_digits? hdigits) (Nat.le_succ _)
  · split at hread
    · rename_i hdigits
      simp only [Option.map_eq_some_iff, Prod.mk.injEq] at hread
      obtain ⟨_, -, -, rfl⟩ := hread
      exact Nat.le_trans (length_digits? hdigits) (Nat.le_succ _)
    · simp at hread
  · split at hread
    · rename_i hdigits
      simp only [Option.map_eq_some_iff, Prod.mk.injEq] at hread
      obtain ⟨_, -, -, rfl⟩ := hread
      exact Nat.le_trans (length_digits? hdigits) (Nat.le_succ _)
    · simp at hread
  · split at hread
    · simp only [Option.some.injEq, Prod.mk.injEq] at hread
      rw [hread.2]
      exact Nat.le_succ _
    · split at hread
      · rename_i hdigits
        split at hread
        · simp only [Option.some.injEq, Prod.mk.injEq] at hread
          rw [← hread.2]
          exact length_digits? hdigits
        · simp at hread
      · simp at hread
  · simp at hread

/-- The text after an opening quote, up to the closing one, which has to be the
last glyph. -/
def readBody : List Glyph → Option Text
  | [] => none
  | .char '"' :: rest => if rest.isEmpty then some [] else none
  | .char '\\' :: rest =>
      match hread : readEscape rest with
      | some (bytes, after) =>
          have := length_readEscape hread
          (readBody after).map (bytes ++ ·)
      | none => none
  | .char '\n' :: _ => none
  | .char character :: rest =>
      (readBody rest).map (String.utf8EncodeChar character ++ ·)
  | .stray _ :: rest =>
      (readBody rest).map (Text.ofChars [Char.ofNat 0xfffd] ++ ·)
termination_by glyphs => glyphs.length
decreasing_by all_goals simp only [List.length_cons]; omega

end GenKill.Quoted

namespace GenKill.Text

def quote (text : Text) : Text :=
  byte '"' :: text.glyphs.flatMap Quoted.escape ++ [byte '"']

/-- Reads a quoted text; none if it is not one. -/
def unquote? (text : Text) : Option Text :=
  match text.glyphs with
  | .char '"' :: rest => Quoted.readBody rest
  | _ => none

/-- A byte shown as a quoted character. -/
def quoteByte (value : UInt8) : Text :=
  byte '\'' :: Quoted.escapeChar '\'' (Char.ofNat value.toNat) ++ [byte '\'']

end GenKill.Text
