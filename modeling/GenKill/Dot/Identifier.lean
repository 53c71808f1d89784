import GenKill.Text.Quoted

/-!
# Identifiers of DOT text

An identifier is written bare where its text allows it and quoted otherwise.
Reading strips the quotes, except where the text between them cannot be
unquoted, or is itself marked up.
-/

namespace GenKill.Dot.Identifier

/-- Drops every backslash that stands before a line break, and the break. -/
def joinLines : Text → Text
  | 92 :: 10 :: rest => joinLines rest
  | head :: rest => head :: joinLines rest
  | [] => []

/-- An identifier of the text as the grammar sees it. -/
def normal (text : Text) : Text :=
  if text.startsWith "\"" then joinLines text else text

/-- What an identifier stands for. -/
def read (text : Text) : Text :=
  if text.startsWith "\"<" ∧ text.endsWith ">\"" ∧ 4 ≤ text.length then text
  else text.unquote?.getD text

/-- Quotes that are still escaped lose their backslash. -/
def unescape : Text → Text
  | 92 :: 34 :: rest => 34 :: unescape rest
  | head :: rest => head :: unescape rest
  | [] => []

/-- The lower-case letter that a character equals when case is ignored. -/
def folded (character : Char) : Char :=
  if 'A' ≤ character ∧ character ≤ 'Z' then Char.ofNat (character.toNat + 32)
  else if character.toNat = 0x17f then 's'
  else if character.toNat = 0x212a then 'k'
  else character

/-- A keyword, in any case. -/
def isKeyword (text : Text) : Bool :=
  text.isUtf8 &&
    ["node", "edge", "graph", "digraph", "subgraph", "strict"].any
      fun keyword => text.shown.map folded = keyword.toList

/-- Letters of words that need no quotes; beyond ASCII only those of one byte's
range. -/
def isBareLetter (glyph : Glyph) : Bool :=
  match glyph with
  | .char character =>
      decide ('a' ≤ character ∧ character ≤ 'z' ∨
        'A' ≤ character ∧ character ≤ 'Z' ∨
        character = '_' ∨ 0x80 ≤ character.toNat ∧ character.toNat ≤ 0xff)
  | .stray _ => false

def isDigitByte (byte : UInt8) : Bool := decide (48 ≤ byte ∧ byte ≤ 57)

def isDigitGlyph (glyph : Glyph) : Bool :=
  match glyph with
  | .char character => decide ('0' ≤ character ∧ character ≤ '9')
  | .stray _ => false

def isBareWord (text : Text) : Bool :=
  match text.glyphs with
  | [] => false
  | head :: tail =>
      isBareLetter head && tail.all fun glyph =>
        isBareLetter glyph || isDigitGlyph glyph

/-- Digits with at most one point among them, and at least one digit. -/
def isUnsigned (text : Text) : Bool :=
  match text.span isDigitByte with
  | ([], 46 :: fraction) => !fraction.isEmpty && fraction.all isDigitByte
  | (_ :: _, []) => true
  | (_ :: _, 46 :: fraction) => fraction.all isDigitByte
  | _ => false

def isNumeral : Text → Bool
  | 45 :: rest => isUnsigned rest
  | text => isUnsigned text

/-- The text can stand without further quotes. -/
def isBare (text : Text) : Bool :=
  isBareWord text || isNumeral text ||
    (text.startsWith "\"" && text.endsWith "\"" && decide (2 ≤ text.length) &&
      text.unquote?.isSome) ||
    (text.startsWith "<" && text.endsWith ">" && decide (2 ≤ text.length))

def write (text : Text) : Text :=
  if isKeyword text then text.quote
  else if isBare text then text
  else text.quote

end GenKill.Dot.Identifier
