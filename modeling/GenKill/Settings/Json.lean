import GenKill.Settings.Value
import GenKill.Text.Glyph
import GenKill.Text.Quoted

/-!
# Settings in JSON
-/

namespace GenKill.Settings.Json

def isSpace (byte : UInt8) : Bool :=
  byte = 32 || byte = 9 || byte = 10 || byte = 13

def skip (text : Text) : Text := text.dropWhile isSpace

/-- Four hexadecimal digits, and the rest. -/
def unit? (text : Text) : Option (Nat × Text) :=
  let digits :=
    (text.take 4).map fun byte => Quoted.hexValue? (Char.ofNat byte.toNat)
  match digits with
  | [some a, some b, some c, some d] =>
      some (((a * 16 + b) * 16 + c) * 16 + d, text.drop 4)
  | _ => none

/-- The code point of a `\u` escape after its mark.  Two escapes may make up one
code point; half of such a pair alone reads as the replacement character. -/
def point? (text : Text) : Option (Char × Text) :=
  match unit? text with
  | none => none
  | some (unit, rest) =>
      if 0xd800 ≤ unit ∧ unit < 0xe000 then
        let second := match rest with
          | 92 :: 117 :: after => unit? after
          | _ => none
        match second with
        | some (low, after) =>
            if unit < 0xdc00 ∧ 0xdc00 ≤ low ∧ low < 0xe000 then
              some (Char.ofNat
                (0x10000 + (unit - 0xd800) * 0x400 + (low - 0xdc00)), after)
            else some (Char.ofNat 0xfffd, rest)
        | none => some (Char.ofNat 0xfffd, rest)
      else some (Char.ofNat unit, rest)

def simpleEscape? (byte : UInt8) : Option UInt8 :=
  if byte = 34 ∨ byte = 92 ∨ byte = 47 then some byte
  else if byte = 98 then some 8
  else if byte = 102 then some 12
  else if byte = 110 then some 10
  else if byte = 114 then some 13
  else if byte = 116 then some 9
  else none

/-- A string after its opening quote: its text and the rest. -/
def string? : Nat → Text → Option (Text × Text)
  | 0, _ => none
  | fuel + 1, text =>
      match text with
      | [] => none
      | 34 :: rest => some ([], rest)
      | 92 :: 117 :: rest =>
          match point? rest with
          | some (point, rest) => more fuel (Text.ofChars [point]) rest
          | none => none
      | 92 :: mark :: rest =>
          match simpleEscape? mark with
          | some byte => more fuel [byte] rest
          | none => none
      | head :: tail =>
          if head < 32 then none
          else
            let glyph := Text.firstGlyph head tail
            more fuel (Text.ofChars [glyph.shown])
              (tail.drop (glyph.bytes.length - 1))
where
  more (fuel : Nat) (bytes rest : Text) : Option (Text × Text) :=
    (string? fuel rest).map fun (text, rest) => (bytes ++ text, rest)

def isDigit (byte : UInt8) : Bool := 48 ≤ byte && byte ≤ 57

/-- Digits, of which there is at least one. -/
def digits? (text : Text) : Option (Text × Text) :=
  match text.takeWhile isDigit with
  | [] => none
  | digits => some (digits, text.dropWhile isDigit)

/-- The whole part of a number; a zero stands alone. -/
def whole? : Text → Option (Text × Text)
  | 48 :: rest => some ([48], rest)
  | text => digits? text

def fraction? : Text → Option (Text × Text)
  | 46 :: rest => (digits? rest).map fun (digits, rest) => (46 :: digits, rest)
  | text => some ([], text)

def exponent? : Text → Option (Text × Text)
  | mark :: rest =>
      if mark = 101 ∨ mark = 69 then
        let (sign, rest) : Text × Text := match rest with
          | 43 :: rest => ([43], rest)
          | 45 :: rest => ([45], rest)
          | rest => ([], rest)
        (digits? rest).map fun (digits, rest) => (mark :: sign ++ digits, rest)
      else some ([], mark :: rest)
  | [] => some ([], [])

/-- A number, and the rest. -/
def number? (text : Text) : Option (Value × Text) :=
  let (sign, unsigned) : Text × Text := match text with
    | 45 :: rest => ([45], rest)
    | _ => ([], text)
  match whole? unsigned with
  | none => none
  | some (whole, rest) =>
      match fraction? rest with
      | none => none
      | some (fraction, rest) =>
          match exponent? rest with
          | none => none
          | some (exponent, rest) =>
              (Number.doubleOfText? (sign ++ whole ++ fraction ++ exponent)).map
                fun number => (.number number, rest)

/-- The words that are values. -/
def word? (text : Text) : Option (Value × Text) :=
  match text.dropStart? "true", text.dropStart? "false",
    text.dropStart? "null" with
  | some rest, _, _ => some (.truth true, rest)
  | _, some rest, _ => some (.truth false, rest)
  | _, _, some rest => some (.null, rest)
  | _, _, _ => none

/-- The items of a list after its opening bracket; the first has been read if
`more`. -/
def items (value : Text → Option (Value × Text)) : Nat → (more : Bool) → Text →
    Option (List Value × Text)
  | 0, _, _ => none
  | fuel + 1, more, text =>
      match skip text, more with
      | 93 :: rest, _ => some ([], rest)
      | 44 :: rest, true => item fuel rest
      | text, false => item fuel text
      | _, true => none
where
  item (fuel : Nat) (text : Text) : Option (List Value × Text) :=
    match value (skip text) with
    | none => none
    | some (first, rest) =>
        (items value fuel true rest).map fun (others, rest) =>
          (first :: others, rest)

/-- The entries of a record after its opening brace; the first has been read if
`more`. -/
def entries (value : Text → Option (Value × Text)) :
    Nat → (more : Bool) → Text → Option (List (Text × Value) × Text)
  | 0, _, _ => none
  | fuel + 1, more, text =>
      match skip text, more with
      | 125 :: rest, _ => some ([], rest)
      | 44 :: rest, true => entry fuel (skip rest)
      | text, false => entry fuel text
      | _, true => none
where
  entry (fuel : Nat) (text : Text) : Option (List (Text × Value) × Text) :=
    match text with
    | 34 :: rest =>
        match string? rest.length rest with
        | none => none
        | some (name, rest) =>
            match skip rest with
            | 58 :: rest =>
                match value (skip rest) with
                | none => none
                | some (found, rest) =>
                    (entries value fuel true rest).map fun (others, rest) =>
                      ((name, found) :: others, rest)
            | _ => none
    | _ => none

/-- A value of at most so many levels, and the rest. -/
def value : Nat → Text → Option (Value × Text)
  | 0, _ => none
  | depth + 1, text =>
      match text with
      | 34 :: rest =>
          (string? rest.length rest).map fun (text, rest) => (.text text, rest)
      | 91 :: rest =>
          (items (value depth) (rest.length + 1) false rest).map
            fun (items, rest) => (.list items, rest)
      | 123 :: rest =>
          (entries (value depth) (rest.length + 1) false rest).map
            fun (entries, rest) => (.record entries, rest)
      | _ =>
          match word? text with
          | some found => some found
          | none => number? text

/-- The record that a text holds; null stands for an empty one. -/
def read (source : Text) : Option Value :=
  let text := skip source
  match value (text.length + 1) text with
  | some (.record entries, rest) =>
      if skip rest = [] then some (.record entries) else none
  | some (.null, rest) => if skip rest = [] then some (.record []) else none
  | _ => none

end GenKill.Settings.Json
