import GenKill.Text.Glyph

/-!
# Blank characters

The characters of the Unicode property White_Space are blank.  Trimming removes
them from both ends of a text; stray bytes are never blank.
-/

namespace GenKill

def isBlank (character : Char) : Bool :=
  let point := character.toNat
  (9 ≤ point && point ≤ 13) || point == 0x20 || point == 0x85 ||
    point == 0xa0 || point == 0x1680 || (0x2000 ≤ point && point ≤ 0x200a) ||
    point == 0x2028 || point == 0x2029 || point == 0x202f ||
    point == 0x205f || point == 0x3000

def Glyph.isBlank : Glyph → Bool
  | .char character => GenKill.isBlank character
  | .stray _ => false

namespace Text

def trimStart (text : Text) : Text :=
  ofGlyphs (text.glyphs.dropWhile Glyph.isBlank)

def trimEnd (text : Text) : Text :=
  ofGlyphs (text.glyphs.reverse.dropWhile Glyph.isBlank).reverse

def trim (text : Text) : Text :=
  ofGlyphs ((text.glyphs.dropWhile Glyph.isBlank).reverse.dropWhile
    Glyph.isBlank).reverse

end Text

end GenKill
