import GenKill.Proofs.Text
import GenKill.Text.Quoted
import Mathlib.Algebra.Group.Nat.Defs

/-!
# Quoting is inverted by unquoting

A quoted text spells each glyph in one of two ways: a printable character stands
for itself, and everything else is a backslash and a few visible ASCII
characters.  `Spelled` says this once; that reading gives the text back, and
what a quoted text can look like, follow from it by induction.
-/

namespace GenKill.Quoted

/-! ### Hexadecimal digits -/

def hexChar (value : Nat) : Char :=
  if value < 10 then Char.ofNat (48 + value) else Char.ofNat (87 + value)

def hexChars (width number : Nat) : List Char :=
  match width with
  | 0 => []
  | width + 1 => hexChars width (number / 16) ++ [hexChar (number % 16)]

private theorem hexChar_facts : ∀ value < 16,
    String.utf8EncodeChar (hexChar value) = [Text.hexDigit value] ∧
      hexValue? (hexChar value) = some value ∧
      (0x20 < (hexChar value).toNat ∧ (hexChar value).toNat < 0x7f ∧
        hexChar value ≠ '>') ∧
      hexChar value ≠ '"' ∧ hexChar value ≠ '\\' := by
  decide

theorem hex_eq_ofChars (width number : Nat) :
    Text.hex width number = Text.ofChars (hexChars width number) := by
  induction width generalizing number with
  | zero => rfl
  | succ width ih =>
      have hdigit := (hexChar_facts (number % 16) (Nat.mod_lt _ (by decide))).1
      rw [Text.hex, hexChars, ih, Text.ofChars_append]
      simp [Text.ofChars, hdigit]

theorem mem_hexChars {width number : Nat} {character : Char}
    (hmem : character ∈ hexChars width number) :
    (0x20 < character.toNat ∧ character.toNat < 0x7f ∧ character ≠ '>') ∧
      character ≠ '"' ∧ character ≠ '\\' := by
  induction width generalizing number with
  | zero => simp [hexChars] at hmem
  | succ width ih =>
      rw [hexChars, List.mem_append, List.mem_singleton] at hmem
      rcases hmem with hmem | rfl
      · exact ih hmem
      · exact (hexChar_facts (number % 16) (Nat.mod_lt _ (by decide))).2.2

/-- Reading one more digit at the end. -/
theorem digits?_succ (value? : Char → Option Nat) (base count number : Nat)
    (glyphs : List Glyph) :
    digits? value? base (count + 1) number glyphs =
      (digits? value? base count number glyphs).bind fun read =>
        digits? value? base 1 read.1 read.2 := by
  induction count generalizing number glyphs with
  | zero => rfl
  | succ count ih =>
      cases glyphs with
      | nil => rfl
      | cons head tail =>
          cases head with
          | stray byte => rfl
          | char character =>
              rw [digits?, digits?]
              cases value? character with
              | none => rfl
              | some digit => exact ih (number * base + digit) tail

/-- A number is read back from its hexadecimal digits. -/
theorem digits?_hexChars (width start number : Nat) (rest : List Glyph)
    (hnumber : number < 16 ^ width) :
    digits? hexValue? 16 width start
        ((hexChars width number).map .char ++ rest) =
      some (start * 16 ^ width + number, rest) := by
  induction width generalizing number rest with
  | zero =>
      obtain rfl : number = 0 := by simpa using hnumber
      simp [hexChars, digits?]
  | succ width ih =>
      have hvalue :=
        (hexChar_facts (number % 16) (Nat.mod_lt _ (by decide))).2.1
      have hhigh : number / 16 < 16 ^ width := by
        apply Nat.div_lt_of_lt_mul
        rw [Nat.mul_comm, ← Nat.pow_succ]
        exact hnumber
      rw [digits?_succ, hexChars, List.map_append, List.append_assoc,
        ih _ _ hhigh]
      simp only [Option.bind_some, List.map_cons, List.map_nil,
        List.singleton_append, digits?, hvalue, Option.some.injEq,
        Prod.mk.injEq, and_true]
      rw [Nat.pow_succ, Nat.add_mul, Nat.mul_assoc, Nat.add_assoc,
        Nat.div_add_mod']

/-! ### Escapes -/

/-- What may follow the backslash in the escape of a glyph. -/
structure EscapeOf (glyph : Glyph) (body : List Char) : Prop where
  visible : ∀ character ∈ body,
    0x20 < character.toNat ∧ character.toNat < 0x7f ∧ character ≠ '>'
  /-- Only the first character can be one that means something inside quotes. -/
  plain : ∃ head tail,
    body = head :: tail ∧ ∀ character ∈ tail, character ≠ '"' ∧ character ≠ '\\'
  reads : ∀ rest, readEscape (body.map .char ++ rest) = some (glyph.bytes, rest)

/-- A marker letter and hexadecimal digits. -/
theorem escapeOf_hexChars {glyph : Glyph} {marker : Char} {width number : Nat}
    (hmarker : 0x20 < marker.toNat ∧ marker.toNat < 0x7f ∧ marker ≠ '>')
    (hreads : ∀ rest,
      readEscape (.char marker :: ((hexChars width number).map .char ++ rest)) =
        some (glyph.bytes, rest)) :
    EscapeOf glyph (marker :: hexChars width number) where
  visible := by
    intro character hmem
    rcases List.mem_cons.mp hmem with rfl | hmem
    · exact hmarker
    · exact (mem_hexChars hmem).1
  plain :=
    ⟨marker, hexChars width number, rfl,
      fun character hmem => (mem_hexChars hmem).2⟩
  reads := hreads

/-- One letter, which stands for one byte. -/
theorem escapeOf_letter {glyph : Glyph} {letter : Char}
    (hvisible : 0x20 < letter.toNat ∧ letter.toNat < 0x7f ∧ letter ≠ '>')
    (hreads : ∀ rest,
      readEscape (.char letter :: rest) = some (glyph.bytes, rest)) :
    EscapeOf glyph [letter] where
  visible := by
    intro character hmem
    rw [List.mem_singleton] at hmem
    exact hmem ▸ hvisible
  plain := ⟨letter, [], rfl, by simp⟩
  reads := hreads

theorem ofChars_backslash_hex (marker : String) (width number : Nat) :
    Text.ofString marker ++ Text.hex width number =
      Text.ofChars (marker.toList ++ hexChars width number) := by
  rw [Text.ofString_eq_ofChars, hex_eq_ofChars, Text.ofChars_append]

theorem pointBytes?_toNat (character : Char) :
    pointBytes? character.toNat = some (String.utf8EncodeChar character) := by
  have hvalid : character.toNat.isValidChar := character.valid
  rw [pointBytes?, if_pos hvalid, Char.ofNat_toNat]

/-- Every code point can be written with the digits its size calls for. -/
theorem numeric_cases (character : Char) :
    ∃ body, EscapeOf (.char character) body ∧
      numeric character.toNat = Text.ofChars ('\\' :: body) := by
  have hpoint : character.toNat < 16 ^ 8 := by
    have := character.valid
    simp only [UInt32.isValidChar, Nat.isValidChar] at this
    change character.val.toNat < _
    omega
  unfold numeric
  split
  · rename_i hascii
    refine ⟨'x' :: hexChars 2 character.toNat, escapeOf_hexChars (by decide) ?_,
      ?_⟩
    · intro rest
      rw [readEscape, digits?_hexChars 2 0 _ rest (by omega), Glyph.bytes,
        Text.utf8EncodeChar_of_lt hascii, Nat.zero_mul, Nat.zero_add]
      rfl
    · exact ofChars_backslash_hex "\\x" 2 character.toNat
  · split
    · rename_i hplane
      refine ⟨'u' :: hexChars 4 character.toNat,
        escapeOf_hexChars (by decide) ?_, ?_⟩
      · intro rest
        rw [readEscape, digits?_hexChars 4 0 _ rest (by omega)]
        simp [Glyph.bytes, pointBytes?_toNat]
      · exact ofChars_backslash_hex "\\u" 4 character.toNat
    · refine ⟨'U' :: hexChars 8 character.toNat,
        escapeOf_hexChars (by decide) ?_, ?_⟩
      · intro rest
        rw [readEscape, digits?_hexChars 8 0 _ rest hpoint]
        simp [Glyph.bytes, pointBytes?_toNat]
      · exact ofChars_backslash_hex "\\U" 8 character.toNat

theorem escapeOf_letter_of_letterOf? {character letter : Char}
    (hletter : letterOf? character = some letter) :
    EscapeOf (.char character) [letter] := by
  have hcharacter : character = Char.ofNat character.toNat :=
    (Char.ofNat_toNat character).symm
  unfold letterOf? at hletter
  split at hletter
  all_goals cases hletter
  all_goals
    rename_i hpoint
    rw [hpoint] at hcharacter
    subst hcharacter
    exact escapeOf_letter (by decide) fun _ => rfl

/-- The two ways in which a glyph stands between quotes. -/
theorem escape_cases (glyph : Glyph) :
    (∃ character, glyph = .char character ∧ character ≠ '"' ∧ character ≠ '\\' ∧
      isPrintable character = true ∧ escape glyph = Text.ofChars [character]) ∨
    ∃ body,
      EscapeOf glyph body ∧ escape glyph = Text.ofChars ('\\' :: body) := by
  cases glyph with
  | stray byte =>
      refine .inr ⟨'x' :: hexChars 2 byte.toNat,
        escapeOf_hexChars (by decide) ?_, ?_⟩
      · intro rest
        rw [readEscape, digits?_hexChars 2 0 _ rest byte.toNat_lt, Nat.zero_mul,
          Nat.zero_add]
        simp [Glyph.bytes]
      · exact ofChars_backslash_hex "\\x" 2 byte.toNat
  | char character =>
      rw [escape, escapeChar]
      split
      · rename_i hmark
        rcases hmark with rfl | rfl
        · exact .inr ⟨['"'], escapeOf_letter (by decide) fun _ => rfl, rfl⟩
        · exact .inr ⟨['\\'], escapeOf_letter (by decide) fun _ => rfl, rfl⟩
      · rename_i hmark
        rw [not_or] at hmark
        split
        · rename_i hprintable
          exact .inl ⟨character, rfl, hmark.1, hmark.2, hprintable, rfl⟩
        · split
          · rename_i letter hletter
            exact .inr ⟨[letter], escapeOf_letter_of_letterOf? hletter, rfl⟩
          · exact .inr (numeric_cases character)

/-! ### Quoted bodies -/

/-- How a list of glyphs stands between quotes. -/
inductive Spelled : List Glyph → List Char → Prop
  | nil : Spelled [] []
  | char {glyphs : List Glyph} {characters : List Char} (character : Char)
      (hquote : character ≠ '"') (hslash : character ≠ '\\')
      (hprintable : isPrintable character = true)
      (hrest : Spelled glyphs characters) :
      Spelled (.char character :: glyphs) (character :: characters)
  | escape {glyph : Glyph} {glyphs : List Glyph} {body characters : List Char}
      (hescape : EscapeOf glyph body) (hrest : Spelled glyphs characters) :
      Spelled (glyph :: glyphs) ('\\' :: (body ++ characters))

/-- Every text is spelled with printable characters and escapes. -/
theorem exists_spelled (glyphs : List Glyph) :
    ∃ characters,
      Spelled glyphs characters ∧
        glyphs.flatMap escape = Text.ofChars characters := by
  induction glyphs with
  | nil => exact ⟨[], .nil, rfl⟩
  | cons glyph glyphs ih =>
      obtain ⟨characters, hspelled, htext⟩ := ih
      rcases escape_cases glyph with
        ⟨character, rfl, hquote, hslash, hprintable, hescape⟩ |
        ⟨body, hbody, hescape⟩
      · refine ⟨character :: characters,
          .char character hquote hslash hprintable hspelled, ?_⟩
        rw [List.flatMap_cons, hescape, htext, ← Text.ofChars_append]
        rfl
      · refine ⟨'\\' :: (body ++ characters), .escape hbody hspelled, ?_⟩
        rw [List.flatMap_cons, hescape, htext, ← Text.ofChars_append]
        rfl

theorem ne_newline_of_isPrintable {character : Char}
    (hprintable : isPrintable character = true) : character ≠ '\n' := by
  rintro rfl
  exact absurd hprintable (by decide)

theorem readBody_escape {glyph : Glyph} {body : List Char}
    (hescape : EscapeOf glyph body) (rest : List Glyph) :
    readBody (.char '\\' :: (body.map .char ++ rest)) =
      (readBody rest).map (glyph.bytes ++ ·) := by
  rw [readBody]
  split
  · rename_i bytes after hread
    rw [hescape.reads] at hread
    cases hread
    rfl
  · rename_i hread
    rw [hescape.reads] at hread
    cases hread

/-- What is spelled is read back up to the closing quote. -/
theorem Spelled.readBody {glyphs : List Glyph} {characters : List Char}
    (hspelled : Spelled glyphs characters) :
    readBody (characters.map .char ++ [.char '"']) =
      some (Text.ofGlyphs glyphs) := by
  induction hspelled with
  | nil => simp [Quoted.readBody, Text.ofGlyphs]
  | char character hquote hslash hprintable hrest ih =>
      have hnewline := ne_newline_of_isPrintable hprintable
      rw [List.map_cons, List.cons_append, Quoted.readBody, ih]
      · rfl
      all_goals simpa using ‹_›
  | escape hescape hrest ih =>
      rw [List.map_cons, List.map_append, List.cons_append, List.append_assoc,
        readBody_escape hescape, ih]
      rfl

theorem Spelled.newline_not_mem {glyphs : List Glyph} {characters : List Char}
    (hspelled : Spelled glyphs characters) : '\n' ∉ characters := by
  induction hspelled with
  | nil => simp
  | char character hquote hslash hprintable hrest ih =>
      have hnewline := ne_newline_of_isPrintable hprintable
      rw [List.mem_cons, not_or]
      exact ⟨hnewline.symm, ih⟩
  | escape hescape hrest ih =>
      rw [List.mem_cons, List.mem_append]
      rintro (hslash | hbody | hmem)
      · exact absurd hslash (by decide)
      · exact absurd (hescape.visible _ hbody).1 (by decide)
      · exact ih hmem

/-- Angle brackets are never escaped, and no escape starts or ends with one. -/
theorem Spelled.starts {glyphs : List Glyph} {characters : List Char}
    (hspelled : Spelled glyphs characters)
    (hstart : [60] <+: Text.ofChars characters) :
    [60] <+: Text.ofGlyphs glyphs := by
  cases hspelled with
  | nil => simp at hstart
  | @char glyphs characters character hquote hslash hprintable hrest =>
      obtain ⟨head, tail, hbytes⟩ :=
        List.exists_cons_of_length_pos
          (Glyph.length_bytes_pos (.char character))
      have hencode : String.utf8EncodeChar character = head :: tail := hbytes
      rw [Text.ofChars_cons, hencode] at hstart
      rw [Text.ofGlyphs, List.flatMap_cons, hbytes]
      simpa using hstart
  | escape hescape hrest =>
      have hslash : String.utf8EncodeChar '\\' = [92] := by decide
      rw [Text.ofChars_cons, hslash] at hstart
      simp at hstart

theorem ends_append (left : Text) {right : Text} (hend : [62] <:+ left ++ right)
    (hright : right ≠ []) : [62] <:+ right := by
  refine List.suffix_of_suffix_length_le hend (List.suffix_append left right) ?_
  exact List.length_pos_iff.mpr hright

theorem Spelled.ends {glyphs : List Glyph} {characters : List Char}
    (hspelled : Spelled glyphs characters)
    (hend : [62] <:+ Text.ofChars characters) :
    [62] <:+ Text.ofGlyphs glyphs := by
  induction hspelled with
  | nil => simp at hend
  | @char glyphs characters character hquote hslash hprintable hrest ih =>
      rw [Text.ofChars_cons] at hend
      rw [Text.ofGlyphs, List.flatMap_cons]
      by_cases hempty : Text.ofChars characters = []
      · cases hrest with
        | nil => simpa [Text.ofGlyphs, Glyph.bytes] using hend
        | char => simp [Text.ofChars_cons] at hempty
        | escape => simp [Text.ofChars_cons] at hempty
      · exact (ih (ends_append _ hend hempty)).trans (List.suffix_append _ _)
  | @escape glyph glyphs body characters hescape hrest ih =>
      rw [← List.cons_append, Text.ofChars_append] at hend
      by_cases hempty : Text.ofChars characters = []
      · rw [hempty, List.append_nil] at hend
        have hmem : '>' ∈ '\\' :: body :=
          Text.mem_of_mem_ofChars (hend.subset (List.mem_singleton_self 62))
            (by decide)
        rcases List.mem_cons.mp hmem with hslash | hbody
        · exact absurd hslash (by decide)
        · exact absurd rfl (hescape.visible _ hbody).2.2
      · exact (ih (ends_append _ hend hempty)).trans (List.suffix_append _ _)

/-! ### Reading never lengthens -/

/-- What reading an escape consumes and gives: some characters of one line and
without commas, for a byte or the bytes of a character. -/
structure Escapes (used : List Char) (bytes : Text) : Prop where
  length_le : bytes.length ≤ used.length
  inline : ∀ character ∈ used, character ≠ '\n' ∧ character ≠ ','
  single : (∃ byte, bytes = [byte]) ∨
    ∃ character, bytes = String.utf8EncodeChar character

theorem digits?_consumes {value? : Char → Option Nat}
    {base count number result : Nat} {glyphs rest : List Glyph}
    (hdigits : digits? value? base count number glyphs = some (result, rest)) :
    ∃ used : List Char, glyphs = used.map .char ++ rest ∧ used.length = count ∧
      ∀ character ∈ used, value? character ≠ none := by
  induction count generalizing number glyphs with
  | zero =>
      simp only [digits?, Option.some.injEq, Prod.mk.injEq] at hdigits
      exact ⟨[], hdigits.2, rfl, by simp⟩
  | succ count ih =>
      cases glyphs with
      | nil => simp [digits?] at hdigits
      | cons head tail =>
          cases head with
          | stray byte => simp [digits?] at hdigits
          | char character =>
              cases hvalue : value? character with
              | none => simp [digits?, hvalue] at hdigits
              | some digit =>
                  simp only [digits?, hvalue] at hdigits
                  obtain ⟨used, rfl, hlength, hused⟩ := ih hdigits
                  refine ⟨character :: used, rfl,
                    by rw [List.length_cons, hlength], ?_⟩
                  exact List.forall_mem_cons.mpr ⟨by simp [hvalue], hused⟩

theorem inline_of_value? {value? : Char → Option Nat}
    (hnewline : value? '\n' = none) (hcomma : value? ',' = none)
    {used : List Char} (hused : ∀ character ∈ used, value? character ≠ none) :
    ∀ character ∈ used, character ≠ '\n' ∧ character ≠ ',' := by
  intro character hmem
  constructor
  · rintro rfl
    exact hused _ hmem hnewline
  · rintro rfl
    exact hused _ hmem hcomma

/-- A marker and a number of hexadecimal digits that is no less than the bytes
they stand for. -/
theorem escapes_digits {count number result : Nat} {glyphs rest : List Glyph}
    {bytes : Text} {marker : Char}
    (hdigits : digits? hexValue? 16 count number glyphs = some (result, rest))
    (hmarker : marker ≠ '\n' ∧ marker ≠ ',') (hbytes : bytes.length ≤ count)
    (hsingle : (∃ byte, bytes = [byte]) ∨
      ∃ character, bytes = String.utf8EncodeChar character) :
    ∃ used : List Char,
      .char marker :: glyphs = used.map .char ++ rest ∧ Escapes used bytes := by
  obtain ⟨used, rfl, hlength, hused⟩ := digits?_consumes hdigits
  refine ⟨marker :: used, rfl, by rw [List.length_cons]; omega, ?_, hsingle⟩
  exact List.forall_mem_cons.mpr
    ⟨hmarker, inline_of_value? (by decide) (by decide) hused⟩

theorem pointBytes?_eq_some {number : Nat} {bytes : Text}
    (hpoint : pointBytes? number = some bytes) :
    bytes.length ≤ 4 ∧
      ∃ character, bytes = String.utf8EncodeChar character := by
  unfold pointBytes? at hpoint
  split at hpoint
  · cases hpoint
    rw [String.length_utf8EncodeChar]
    exact ⟨Char.utf8Size_le_four _, _, rfl⟩
  · cases hpoint

/-- An escape takes characters of one line off the text, and none of them is a
comma. -/
theorem readEscape_consumes {glyphs rest : List Glyph} {bytes : Text}
    (hread : readEscape glyphs = some (bytes, rest)) :
    ∃ used : List Char,
      glyphs = used.map .char ++ rest ∧ Escapes used bytes := by
  unfold readEscape at hread
  split at hread
  · simp only [Option.map_eq_some_iff, Prod.exists, Prod.mk.injEq] at hread
    obtain ⟨number, rest', hdigits, rfl, rfl⟩ := hread
    exact escapes_digits hdigits (by decide) (by simp) (.inl ⟨_, rfl⟩)
  · split at hread
    · rename_i hdigits
      simp only [Option.map_eq_some_iff, Prod.mk.injEq] at hread
      obtain ⟨_, hpoint, rfl, rfl⟩ := hread
      obtain ⟨hlength, hchar⟩ := pointBytes?_eq_some hpoint
      exact escapes_digits hdigits (by decide) hlength (.inr hchar)
    · cases hread
  · split at hread
    · rename_i hdigits
      simp only [Option.map_eq_some_iff, Prod.mk.injEq] at hread
      obtain ⟨_, hpoint, rfl, rfl⟩ := hread
      obtain ⟨hlength, hchar⟩ := pointBytes?_eq_some hpoint
      exact escapes_digits hdigits (by decide) (by omega) (.inr hchar)
    · cases hread
  · rename_i character rest' _ _ _
    split at hread
    · rename_i byte hletter
      cases hread
      refine ⟨[character], rfl, Nat.le_refl 1,
        List.forall_mem_singleton.mpr ⟨?_, ?_⟩, .inl ⟨_, rfl⟩⟩
      · rintro rfl
        simp [letterValue?] at hletter
      · rintro rfl
        simp [letterValue?] at hletter
    · split at hread
      · rename_i hdigits
        split at hread
        · cases hread
          obtain ⟨used, hused, hlength, hvalues⟩ := digits?_consumes hdigits
          exact ⟨used, hused, by simp [hlength],
            inline_of_value? (by decide) (by decide) hvalues, .inl ⟨_, rfl⟩⟩
        · cases hread
      · cases hread
  · cases hread

/-- What is read up to a closing quote has no newline in it, and is shorter than
the way it was written. -/
theorem readBody_shrinks {glyphs : List Glyph} {text : Text}
    (hread : readBody glyphs = some text)
    (hstray : ∀ byte, .stray byte ∉ glyphs) :
    .char '\n' ∉ glyphs ∧ text.length + 1 ≤ (Text.ofGlyphs glyphs).length := by
  fun_induction readBody glyphs generalizing text with
  | case1 => cases hread
  | case2 rest hempty =>
      rw [List.isEmpty_iff] at hempty
      subst hempty
      cases hread
      exact ⟨by simp, by decide⟩
  | case3 => cases hread
  | case4 rest bytes after hescape _ ih =>
      obtain ⟨used, rfl, hescapes⟩ := readEscape_consumes hescape
      have hlength := hescapes.length_le
      have hnewline : '\n' ∉ used := fun hmem => (hescapes.inline _ hmem).1 rfl
      obtain ⟨tail, htail, rfl⟩ := Option.map_eq_some_iff.mp hread
      obtain ⟨hrest, hshrinks⟩ :=
        ih htail fun byte hmem => hstray byte (by simp [hmem])
      have hused := Text.length_le_length_ofGlyphs (used.map .char)
      refine ⟨by simp [hnewline, hrest], ?_⟩
      rw [Text.ofGlyphs_cons, Text.ofGlyphs_append]
      simp only [List.length_append, List.length_map] at hused ⊢
      have hslash := Glyph.length_bytes_pos (.char '\\')
      omega
  | case5 => cases hread
  | case6 => cases hread
  | case7 character rest hquote hslash hnewline ih =>
      obtain ⟨tail, htail, rfl⟩ := Option.map_eq_some_iff.mp hread
      obtain ⟨hrest, hshrinks⟩ :=
        ih htail fun byte hmem => hstray byte (by simp [hmem])
      refine ⟨?_, ?_⟩
      · rw [List.mem_cons, not_or]
        exact ⟨fun heq => hnewline (Glyph.char.inj heq).symm, hrest⟩
      rw [Text.ofGlyphs_cons]
      simp only [Glyph.bytes, List.length_append]
      omega
  | case8 byte => exact absurd List.mem_cons_self (hstray byte)

end GenKill.Quoted

namespace GenKill.Text

/-- A quoted text as characters. -/
theorem exists_quote (text : Text) :
    ∃ characters, Quoted.Spelled text.glyphs characters ∧
      text.quote = ofChars ('"' :: (characters ++ ['"'])) := by
  obtain ⟨characters, hspelled, htext⟩ := Quoted.exists_spelled text.glyphs
  refine ⟨characters, hspelled, ?_⟩
  rw [quote, htext, ofChars_cons, ofChars_append]
  rfl

/-- Quoting a text and unquoting it gives the text back. -/
theorem unquote?_quote (text : Text) : text.quote.unquote? = some text := by
  obtain ⟨characters, hspelled, hquote⟩ := exists_quote text
  rw [hquote, unquote?, glyphs_ofChars, List.map_cons, List.map_append]
  exact hspelled.readBody.trans (congrArg some (ofGlyphs_glyphs text))

/-- Unquoting drops at least the quotes, and there is no line break in what it
accepts. -/
theorem unquote?_shrinks {characters : List Char} {text : Text}
    (hunquote : (ofChars characters).unquote? = some text) :
    '\n' ∉ characters ∧ text.length + 2 ≤ (ofChars characters).length := by
  have hstray : ∀ byte, Glyph.stray byte ∉ characters.map Glyph.char := by simp
  have htext := ofGlyphs_glyphs (ofChars characters)
  rw [unquote?] at hunquote
  split at hunquote
  · rename_i rest hglyphs
    rw [glyphs_ofChars] at hglyphs
    rw [glyphs_ofChars, hglyphs] at htext
    rw [hglyphs] at hstray
    obtain ⟨hnewline, hshrinks⟩ :=
      Quoted.readBody_shrinks hunquote fun byte hmem =>
        hstray byte (by simp [hmem])
    constructor
    · intro hmem
      have hmem' : Glyph.char '\n' ∈ Glyph.char '"' :: rest :=
        hglyphs ▸ List.mem_map_of_mem hmem
      rcases List.mem_cons.mp hmem' with hquote | hrest
      · exact absurd hquote (by decide)
      · exact hnewline hrest
    · rw [← htext, ofGlyphs_cons, List.length_append]
      have hquote := Glyph.length_bytes_pos (.char '"')
      omega
  · cases hunquote

theorem newline_not_mem_quote (text : Text) : 10 ∉ text.quote := by
  intro hmem
  obtain ⟨characters, hspelled, hquote⟩ := exists_quote text
  rw [hquote] at hmem
  have hnewline : '\n' ∈ '"' :: (characters ++ ['"']) :=
    mem_of_mem_ofChars hmem (by decide)
  simp only [List.mem_cons, List.mem_append, List.not_mem_nil,
    or_false] at hnewline
  rcases hnewline with hquote | hmem | hquote
  · exact absurd hquote (by decide)
  · exact hspelled.newline_not_mem hmem
  · exact absurd hquote (by decide)

/-- Only a marked-up text looks marked up once it is quoted. -/
theorem markup_of_quote {text : Text} (hstart : [34, 60] <+: text.quote)
    (hend : [62, 34] <:+ text.quote) : [60] <+: text ∧ [62] <:+ text := by
  obtain ⟨characters, hspelled, hquote⟩ := exists_quote text
  have hbytes : text.quote = 34 :: (ofChars characters ++ [34]) := by
    rw [hquote, ofChars_cons, ofChars_append]
    rfl
  rw [hbytes] at hstart hend
  have hstart' : [60] <+: ofChars characters ++ [34] :=
    (List.cons_prefix_cons.mp hstart).2
  have hend' : [62] <:+ 34 :: ofChars characters := by
    have : [62] ++ [34] <:+ (34 :: ofChars characters) ++ [34] := hend
    rwa [List.suffix_append_self_iff] at this
  cases hcharacters : ofChars characters with
  | nil =>
      rw [hcharacters] at hend'
      exact absurd hend' (by decide)
  | cons head tail =>
      rw [hcharacters] at hstart' hend'
      rw [← ofGlyphs_glyphs text]
      refine ⟨hspelled.starts ?_, hspelled.ends ?_⟩
      · rw [hcharacters]
        simpa using hstart'
      · rw [hcharacters]
        exact Quoted.ends_append [34] hend' (by simp)

end GenKill.Text
