import GenKill.Text

/-!
# Characters of a byte text

Reading a byte text as UTF-8 gives a list of glyphs: a character for each
well-formed sequence, and a stray byte wherever no sequence starts.  No byte is
lost, so the text can be written back (`Text.ofGlyphs_glyphs`).
-/

namespace GenKill

inductive Glyph where
  | char (character : Char)
  | stray (byte : UInt8)
  deriving DecidableEq

namespace Glyph

def bytes : Glyph → Text
  | char character => String.utf8EncodeChar character
  | stray byte => [byte]

theorem length_bytes_pos (glyph : Glyph) : 0 < glyph.bytes.length := by
  cases glyph with
  | char character => simpa [bytes] using character.utf8Size_pos
  | stray byte => simp [bytes]

/-- The code point a reader shows: stray bytes read as the replacement
character. -/
def shown : Glyph → Char
  | char character => character
  | stray _ => Char.ofNat 0xfffd

end Glyph

namespace Text

/-- The glyph at the start of `head :: tail`. -/
def firstGlyph (head : UInt8) (tail : Text) : Glyph :=
  match ByteArray.utf8DecodeChar? ⟨(head :: tail.take 3).toArray⟩ 0 with
  | some character => .char character
  | none => .stray head

def glyphs : Text → List Glyph
  | [] => []
  | head :: tail =>
      let first := firstGlyph head tail
      first :: glyphs (tail.drop (first.bytes.length - 1))
termination_by text => text.length
decreasing_by simp only [List.length_drop, List.length_cons]; omega

def ofGlyphs (glyphs : List Glyph) : Text := glyphs.flatMap Glyph.bytes

/-- The UTF-8 bytes of a list of characters. -/
def ofChars (characters : List Char) : Text :=
  characters.flatMap String.utf8EncodeChar

/-- Every glyph is a character. -/
def isUtf8 (text : Text) : Bool :=
  text.glyphs.all fun glyph => match glyph with
    | .char _ => true
    | .stray _ => false

/-- Stray bytes become the replacement character. -/
def shown (text : Text) : List Char := text.glyphs.map Glyph.shown

theorem bytes_firstGlyph (head : UInt8) (tail : Text) :
    (firstGlyph head tail).bytes ++
      tail.drop ((firstGlyph head tail).bytes.length - 1) =
        head :: tail := by
  cases hdecode :
    ByteArray.utf8DecodeChar? ⟨(head :: tail.take 3).toArray⟩ 0 with
  | none => simp [firstGlyph, hdecode, Glyph.bytes]
  | some character =>
      simp only [firstGlyph, hdecode, Glyph.bytes]
      have hbytes :=
        String.toByteArray_utf8EncodeChar_of_utf8DecodeChar?_eq_some hdecode
      have hlist : String.utf8EncodeChar character =
          (head :: tail.take 3).take character.utf8Size := by
        have := congrArg (fun bytes => bytes.data.toList) hbytes
        simpa [ByteArray.extract, ByteArray.copySlice] using this
      have hleading : String.utf8EncodeChar character =
          (head :: tail).take character.utf8Size := by
        have hsize := character.utf8Size_le_four
        rw [hlist]
        rw [show head :: tail.take 3 = (head :: tail).take 4 from rfl,
          List.take_take]
        congr 1
        omega
      rw [String.length_utf8EncodeChar]
      have hpos := character.utf8Size_pos
      obtain ⟨size, hsize⟩ : ∃ size, character.utf8Size = size + 1 :=
        ⟨character.utf8Size - 1, by omega⟩
      rw [hleading, hsize]
      simp

theorem ofGlyphs_glyphs (text : Text) : ofGlyphs text.glyphs = text := by
  fun_induction glyphs text with
  | case1 => rfl
  | case2 head tail first ih =>
      rw [ofGlyphs, List.flatMap_cons, ← ofGlyphs, ih]
      exact bytes_firstGlyph head tail

end Text

end GenKill
