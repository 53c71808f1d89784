import GenKill.Text.Glyph
import Mathlib.Data.List.Basic

/-!
# Byte texts read as characters

The bytes of a list of characters read back as those characters, whatever
follows them.  A text that is put together from such parts can therefore be read
part by part.  The other way round, a part of a text that is cut out between
characters reads as it did in the whole text, stray bytes included.
-/

namespace GenKill.Text

/-! ### Ends of a text -/

theorem dropStart?_isSome_iff (text lead : Text) :
    (dropStart? text lead).isSome = true ↔ lead <+: text := by
  induction lead generalizing text with
  | nil => simp [dropStart?]
  | cons byte lead ih =>
      cases text with
      | nil => simp [dropStart?]
      | cons head tail =>
          rw [dropStart?, List.cons_prefix_cons]
          by_cases hhead : byte = head
          · simp [hhead, ih]
          · simp [hhead]

theorem startsWith_iff (text lead : Text) :
    text.startsWith lead = true ↔ lead <+: text :=
  dropStart?_isSome_iff text lead

theorem endsWith_iff (text tail : Text) :
    text.endsWith tail = true ↔ tail <:+ text := by
  rw [endsWith, startsWith_iff, List.reverse_prefix]

/-! ### Bytes of characters -/

@[simp]
theorem ofChars_nil : ofChars [] = [] := rfl

theorem ofChars_cons (character : Char) (characters : List Char) :
    ofChars (character :: characters) =
      String.utf8EncodeChar character ++ ofChars characters :=
  rfl

theorem ofChars_append (left right : List Char) :
    ofChars (left ++ right) = ofChars left ++ ofChars right := by
  simp [ofChars]

/-- An ASCII character is one byte. -/
theorem utf8EncodeChar_of_lt {character : Char}
    (hascii : character.toNat < 0x80) :
    String.utf8EncodeChar character = [character.toUInt8] := by
  have hsize : character.utf8Size = 1 := by
    rw [Char.utf8Size_eq_one_iff, UInt32.le_iff_toNat_le]
    exact Nat.le_of_lt_succ hascii
  exact String.utf8EncodeChar_eq_singleton hsize

theorem ofString_eq_ofChars (literal : String) :
    ofString literal = ofChars literal.toList := by
  rw [ofString, String.toUTF8_eq_toByteArray, ← String.utf8Encode_toList,
    List.utf8Encode]
  simp [ofChars]

/-- An encoded character is read back as that character. -/
theorem glyphs_utf8EncodeChar_append (character : Char) (rest : Text) :
    glyphs (String.utf8EncodeChar character ++ rest) =
      .char character :: rest.glyphs := by
  have hlength : (String.utf8EncodeChar character).length =
      character.utf8Size :=
    String.length_utf8EncodeChar character
  have hpos := character.utf8Size_pos
  have hle := character.utf8Size_le_four
  obtain ⟨head, tail, hbytes⟩ : ∃ head tail,
      String.utf8EncodeChar character = head :: tail := by
    cases hencode : String.utf8EncodeChar character with
    | nil => simp [hencode] at hlength; omega
    | cons head tail => exact ⟨head, tail, rfl⟩
  have htail : tail.length ≤ 3 := by
    rw [hbytes, List.length_cons] at hlength
    omega
  -- the three bytes that are looked at hold the whole sequence
  have hfirst : firstGlyph head (tail ++ rest) = .char character := by
    have hview : (⟨(head :: (tail ++ rest).take 3).toArray⟩ : ByteArray) =
        (String.utf8EncodeChar character).toByteArray ++
          (rest.take (3 - tail.length)).toByteArray := by
      rw [← List.toByteArray_append, hbytes, List.take_append,
        List.take_of_length_le htail]
      apply ByteArray.ext
      simp
    rw [firstGlyph, hview, ByteArray.utf8DecodeChar?_utf8EncodeChar_append]
  rw [hbytes, List.cons_append, glyphs, hfirst]
  simp [Glyph.bytes, hbytes]

private theorem ascii_facts : ∀ number < 0x80,
    String.utf8EncodeChar (Char.ofNat number) = [number.toUInt8] ∧
      number.toUInt8.IsUTF8FirstByte := by
  decide

theorem utf8EncodeChar_ofNat {value : UInt8} (hascii : value.toNat < 0x80) :
    String.utf8EncodeChar (Char.ofNat value.toNat) = [value] := by
  simpa using (ascii_facts value.toNat hascii).1

theorem glyphs_cons_of_lt {value : UInt8} (hascii : value.toNat < 0x80)
    (rest : Text) :
    glyphs (value :: rest) = .char (Char.ofNat value.toNat) :: rest.glyphs := by
  rw [← glyphs_utf8EncodeChar_append, utf8EncodeChar_ofNat hascii]
  rfl

/-- No byte of a longer sequence is ASCII. -/
theorem eq_of_mem_utf8EncodeChar {character : Char} {value : UInt8}
    (hmem : value ∈ String.utf8EncodeChar character)
    (hascii : value.toNat < 0x80) : character = Char.ofNat value.toNat := by
  obtain ⟨index, hindex, hvalue⟩ := List.getElem_of_mem hmem
  have hfirst : value.IsUTF8FirstByte := by
    simpa using (ascii_facts value.toNat hascii).2
  rw [← hvalue, UInt8.isUTF8FirstByte_getElem_utf8EncodeChar] at hfirst
  subst hfirst
  have hglyphs := glyphs_utf8EncodeChar_append character []
  obtain ⟨head, tail, hbytes⟩ := List.exists_cons_of_length_pos hindex
  obtain rfl : head = value := by simpa [hbytes] using hvalue
  rw [hbytes, List.cons_append, glyphs_cons_of_lt hascii] at hglyphs
  exact (Glyph.char.inj (List.cons.inj hglyphs).1).symm

theorem mem_of_mem_ofChars {characters : List Char} {value : UInt8}
    (hmem : value ∈ ofChars characters) (hascii : value.toNat < 0x80) :
    Char.ofNat value.toNat ∈ characters := by
  obtain ⟨character, hcharacter, hvalue⟩ := List.mem_flatMap.mp hmem
  exact eq_of_mem_utf8EncodeChar hvalue hascii ▸ hcharacter

/-- Characters in front of a text are read back as they are. -/
theorem glyphs_ofChars_append (characters : List Char) (rest : Text) :
    (ofChars characters ++ rest).glyphs =
      characters.map .char ++ rest.glyphs := by
  induction characters with
  | nil => rfl
  | cons character characters ih =>
      rw [ofChars_cons, List.append_assoc, glyphs_utf8EncodeChar_append, ih]
      rfl

@[simp]
theorem glyphs_nil : glyphs [] = [] := by
  rw [glyphs]

@[simp]
theorem glyphs_ofChars (characters : List Char) :
    (ofChars characters).glyphs = characters.map .char := by
  have happend := glyphs_ofChars_append characters []
  rwa [List.append_nil, glyphs_nil, List.append_nil] at happend

@[simp]
theorem shown_nil : shown [] = [] := by
  rw [shown, glyphs_nil, List.map_nil]

theorem shown_ofChars_append (characters : List Char) (rest : Text) :
    (ofChars characters ++ rest).shown = characters ++ rest.shown := by
  rw [shown, glyphs_ofChars_append, List.map_append, List.map_map]
  congr 1
  exact List.map_id characters

@[simp]
theorem shown_ofChars (characters : List Char) :
    (ofChars characters).shown = characters := by
  have happend := shown_ofChars_append characters []
  rwa [List.append_nil, shown_nil, List.append_nil] at happend

theorem ofGlyphs_cons (glyph : Glyph) (glyphs : List Glyph) :
    ofGlyphs (glyph :: glyphs) = glyph.bytes ++ ofGlyphs glyphs := rfl

theorem ofGlyphs_append (left right : List Glyph) :
    ofGlyphs (left ++ right) = ofGlyphs left ++ ofGlyphs right := by
  simp [ofGlyphs]

theorem length_le_length_ofGlyphs (glyphs : List Glyph) :
    glyphs.length ≤ (ofGlyphs glyphs).length := by
  induction glyphs with
  | nil => exact Nat.le_refl 0
  | cons glyph glyphs ih =>
      have hpos := glyph.length_bytes_pos
      rw [ofGlyphs_cons, List.length_append, List.length_cons]
      omega

/-- Glyphs determine the text. -/
theorem glyphs_injective : Function.Injective glyphs := by
  intro left right heq
  rw [← ofGlyphs_glyphs left, heq, ofGlyphs_glyphs]

/-- A text without stray bytes is the bytes of its characters. -/
theorem ofChars_shown {text : Text} (hutf8 : text.isUtf8 = true) :
    ofChars text.shown = text := by
  have hglyphs : text.shown.map Glyph.char = text.glyphs := by
    rw [shown, List.map_map]
    refine (List.map_congr_left fun glyph hmem => ?_).trans (List.map_id _)
    cases glyph with
    | char character => rfl
    | stray byte => exact absurd (List.all_eq_true.mp hutf8 _ hmem) (by simp)
  apply glyphs_injective
  rw [glyphs_ofChars, hglyphs]

/-! ### Parts of a text -/

/-- The glyphs behind a part of a text are those of the bytes that are left. -/
theorem glyphs_ofGlyphs_of_suffix {text : Text} {before after : List Glyph}
    (hglyphs : text.glyphs = before ++ after) :
    (ofGlyphs after).glyphs = after := by
  induction before generalizing text with
  | nil =>
      rw [List.nil_append] at hglyphs
      rw [← hglyphs, ofGlyphs_glyphs]
  | cons glyph before ih =>
      cases text with
      | nil =>
          rw [glyphs_nil] at hglyphs
          cases hglyphs
      | cons head tail =>
          rw [glyphs, List.cons_append, List.cons.injEq] at hglyphs
          exact ih hglyphs.2

/-- Bytes that start no character also start none if the text ends sooner. -/
theorem firstGlyph_of_prefix {head : UInt8} {tail short : Text}
    (hstart : short <+: tail) (hstray : firstGlyph head tail = .stray head) :
    firstGlyph head short = .stray head := by
  cases hfirst : firstGlyph head short with
  | stray byte =>
      have hbytes := bytes_firstGlyph head short
      rw [hfirst] at hbytes
      rw [(List.cons.inj hbytes).1]
  | char character =>
      have hbytes := bytes_firstGlyph head short
      rw [hfirst] at hbytes
      obtain ⟨rest, rfl⟩ := hstart
      have hglyphs := glyphs_utf8EncodeChar_append character
        (short.drop ((Glyph.char character).bytes.length - 1) ++ rest)
      rw [← List.append_assoc] at hglyphs
      change ((Glyph.char character).bytes ++ _ ++ rest).glyphs = _ at hglyphs
      rw [hbytes, List.cons_append, glyphs, hstray] at hglyphs
      cases hglyphs

/-- The first glyphs of a text are also all glyphs of the bytes they are made
of. -/
theorem glyphs_ofGlyphs_of_prefix {text : Text} {before after : List Glyph}
    (hglyphs : text.glyphs = before ++ after) :
    (ofGlyphs before).glyphs = before := by
  induction before generalizing text with
  | nil => exact glyphs_nil
  | cons glyph before ih =>
      cases text with
      | nil =>
          rw [glyphs_nil] at hglyphs
          cases hglyphs
      | cons head tail =>
          rw [glyphs, List.cons_append, List.cons.injEq] at hglyphs
          obtain ⟨hfirst, hrest⟩ := hglyphs
          have hbefore := ih hrest
          cases glyph with
          | char character =>
              rw [ofGlyphs_cons]
              exact (glyphs_utf8EncodeChar_append character _).trans
                (congrArg _ hbefore)
          | stray byte =>
              have hhead : byte = head := by
                have hbytes := bytes_firstGlyph head tail
                rw [hfirst] at hbytes
                exact (List.cons.inj hbytes).1
              subst hhead
              rw [hfirst] at hrest
              have hstart : ofGlyphs before <+: tail := by
                refine ⟨ofGlyphs after, ?_⟩
                rw [← ofGlyphs_append, ← hrest, ofGlyphs_glyphs]
                rfl
              have hshort := firstGlyph_of_prefix hstart hfirst
              change glyphs (byte :: ofGlyphs before) = _
              rw [glyphs, hshort]
              exact congrArg _ hbefore

/-- A part of what was read from a text is read again from its own bytes. -/
theorem glyphs_ofGlyphs_of_infix {text : Text} {part : List Glyph}
    (hpart : part <:+: text.glyphs) : (ofGlyphs part).glyphs = part := by
  obtain ⟨before, after, hglyphs⟩ := hpart
  rw [List.append_assoc] at hglyphs
  have hrest := glyphs_ofGlyphs_of_suffix hglyphs.symm
  exact glyphs_ofGlyphs_of_prefix hrest

theorem ofGlyphs_infix {part whole : List Glyph} (hpart : part <:+: whole) :
    ofGlyphs part <:+: ofGlyphs whole := by
  obtain ⟨before, after, rfl⟩ := hpart
  rw [ofGlyphs_append, ofGlyphs_append]
  exact ⟨_, _, rfl⟩

/-! ### Numbers -/

theorem length_ofNat_pos (number : Nat) : 0 < (ofNat number).length := by
  rw [ofNat]
  split <;> simp

private theorem digit_inj : ∀ left < 10, ∀ right < 10,
    48 + left.toUInt8 = 48 + right.toUInt8 → left = right := by
  decide

/-- Different numbers have different digits. -/
theorem ofNat_injective : Function.Injective ofNat := by
  intro left
  induction left using Nat.strongRecOn with
  | ind left ih =>
      intro right heq
      rw [ofNat, ofNat.eq_def right] at heq
      split at heq
      · rename_i hleft
        split at heq
        · rename_i hright
          exact digit_inj left hleft right hright (List.cons.inj heq).1
        · have hlength := congrArg List.length heq
          have hpos := length_ofNat_pos (right / 10)
          simp only [List.length_append, List.length_singleton] at hlength
          omega
      · rename_i hleft
        split at heq
        · have hlength := congrArg List.length heq
          have hpos := length_ofNat_pos (left / 10)
          simp only [List.length_append, List.length_singleton] at hlength
          omega
        · obtain ⟨hhigh, hlow⟩ := List.append_inj' heq rfl
          have hquotient := ih (left / 10) (by omega) hhigh
          have hremainder :=
            digit_inj (left % 10) (Nat.mod_lt left (by decide)) (right % 10)
              (Nat.mod_lt right (by decide)) (List.cons.inj hlow).1
          omega

end GenKill.Text
