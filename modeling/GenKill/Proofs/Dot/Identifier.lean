import GenKill.Dot.Identifier
import GenKill.Proofs.Dot.Token
import Mathlib.Data.List.Infix

/-!
# What becomes of an identifier that is written and read

Writing quotes a text unless it can stand bare, reading strips the quotes, and a
second step resolves quotes that are still escaped.  The steps follow different
rules, so they do not undo each other on every text.  `Kept` is the exact
condition under which a text comes back; any other text comes back shorter, or
makes what is written unreadable.
-/

namespace GenKill.Dot.Identifier

/-! ### Literal texts -/

theorem quote_bytes : Text.ofString "\"" = [34] := rfl

theorem less_bytes : Text.ofString "<" = [60] := rfl

theorem greater_bytes : Text.ofString ">" = [62] := rfl

theorem quoteLess_bytes : Text.ofString "\"<" = [34, 60] := rfl

theorem greaterQuote_bytes : Text.ofString ">\"" = [62, 34] := rfl

/-! ### Escaped quotes -/

theorem length_unescape_le (text : Text) :
    (unescape text).length ≤ text.length := by
  fun_induction unescape text with
  | case1 rest ih =>
      simp only [List.length_cons]
      omega
  | case2 head rest hescape ih =>
      simp only [List.length_cons]
      omega
  | case3 => exact Nat.le_refl 0

/-- Resolving escaped quotes changes a text only by shortening it. -/
theorem unescape_eq_self_of_length {text : Text}
    (hlength : (unescape text).length = text.length) :
    unescape text = text := by
  fun_induction unescape text with
  | case1 rest ih =>
      have hle := length_unescape_le rest
      simp only [List.length_cons] at hlength
      omega
  | case2 head rest hescape ih =>
      rw [ih (by simpa using hlength)]
  | case3 => rfl

/-- Resolving escapes changes just the texts with a backslash before a quote. -/
theorem unescape_eq_self_iff (text : Text) :
    unescape text = text ↔ ¬[92, 34] <:+: text := by
  fun_induction unescape text with
  | case1 rest ih =>
      have hle := length_unescape_le rest
      constructor
      · intro heq
        have hlength := congrArg List.length heq
        simp only [List.length_cons] at hlength
        omega
      · intro hinfix
        exact absurd ⟨[], rest, rfl⟩ hinfix
  | case2 head rest hescape ih =>
      rw [List.cons.injEq, List.infix_cons_iff, not_or, ih]
      refine ⟨fun ⟨_, hrest⟩ => ⟨?_, hrest⟩, fun ⟨_, hrest⟩ => ⟨rfl, hrest⟩⟩
      rintro ⟨tail, htail⟩
      exact hescape tail (List.cons.inj htail).1.symm
        (List.cons.inj htail).2.symm
  | case3 => simp

/-- What has no quotes afterwards had no escaped quotes before. -/
theorem unescape_eq_self_of_quote_not_mem {text : Text}
    (hquote : 34 ∉ unescape text) : unescape text = text := by
  fun_induction unescape text with
  | case1 rest ih => exact absurd List.mem_cons_self hquote
  | case2 head rest hescape ih =>
      rw [ih fun hmem => hquote (List.mem_cons_of_mem _ hmem)]
  | case3 => rfl

theorem joinLines_eq_self {text : Text} (hnewline : 10 ∉ text) :
    joinLines text = text := by
  fun_induction joinLines text with
  | case1 rest ih => simp at hnewline
  | case2 head rest hbreak ih =>
      rw [ih fun hmem => hnewline (List.mem_cons_of_mem _ hmem)]
  | case3 => rfl

theorem normal_eq_self {text : Text} (hnewline : 10 ∉ text) :
    normal text = text := by
  rw [normal]
  split
  · exact joinLines_eq_self hnewline
  · rfl

/-! ### Writing -/

theorem length_quote (text : Text) : text.length + 2 ≤ text.quote.length := by
  obtain ⟨characters, -, hquote⟩ := Text.exists_quote text
  have hunquote := Text.unquote?_quote text
  rw [hquote] at hunquote ⊢
  exact (Text.unquote?_shrinks hunquote).2

theorem quote_ne_self (text : Text) : text.quote ≠ text := by
  intro heq
  have hlength := length_quote text
  rw [heq] at hlength
  omega

/-- Bare words and numerals are written as they are, unless they are keywords.
-/
theorem write_eq_self_iff (text : Text) :
    write text = text ↔ isKeyword text = false ∧ isBare text = true := by
  rw [write]
  cases isKeyword text with
  | true => simpa using quote_ne_self text
  | false =>
      cases isBare text with
      | true => simp
      | false => simpa using quote_ne_self text

theorem write_eq_quote {text : Text} (hwrite : write text ≠ text) :
    write text = text.quote := by
  rw [Ne, write_eq_self_iff, not_and] at hwrite
  rw [write]
  split
  · rfl
  · rename_i hkeyword
    rw [if_neg (hwrite (by simpa using hkeyword))]

/-- No keyword is marked up. -/
theorem isKeyword_of_less {text : Text} (hless : [60] <+: text) :
    isKeyword text = false := by
  obtain ⟨rest : Text, rfl⟩ := hless
  have hglyphs :=
    Text.glyphs_cons_of_lt (by decide : (60 : UInt8).toNat < 0x80) rest
  have hshown : Text.shown ([60] ++ rest) = '<' :: rest.shown := by
    rw [Text.shown, List.singleton_append, hglyphs]
    rfl
  have hfolded : folded '<' = '<' := by decide
  rw [isKeyword, hshown, List.map_cons, hfolded]
  simp

/-! ### Reading back -/

/-- What reading makes of a written text. -/
def recovered (text : Text) : Text := read (normal (write text))

/-- Marked up between quotes, which reading leaves in place. -/
def QuotedMarkup (text : Text) : Prop := [34, 60] <+: text ∧ [62, 34] <:+ text

instance (text : Text) : Decidable (QuotedMarkup text) :=
  inferInstanceAs (Decidable (_ ∧ _))

theorem QuotedMarkup.four_le {text : Text} (hmarkup : QuotedMarkup text) :
    4 ≤ text.length := by
  obtain ⟨⟨rest, rfl⟩, hend⟩ := hmarkup
  match rest with
  | [] => exact absurd hend (by decide)
  | [byte] => simp [List.suffix_cons_iff] at hend
  | _ :: _ :: _ => simp

/-- Quotes are taken off, except around markup. -/
theorem read_eq (text : Text) :
    read text =
      if QuotedMarkup text then text else text.unquote?.getD text := by
  have hiff : (text.startsWith "\"<" ∧ text.endsWith ">\"" ∧ 4 ≤ text.length) ↔
      QuotedMarkup text := by
    rw [Text.startsWith_iff, Text.endsWith_iff, quoteLess_bytes,
      greaterQuote_bytes, QuotedMarkup]
    exact ⟨fun h => ⟨h.1, h.2.1⟩, fun h => ⟨h.1, h.2, QuotedMarkup.four_le h⟩⟩
  simp only [read, hiff]

/-- Quoting is undone. -/
theorem recovered_of_quoted {text : Text} (hwrite : write text ≠ text) :
    recovered text = text := by
  have hquote := write_eq_quote hwrite
  rw [recovered, hquote, normal_eq_self (Text.newline_not_mem_quote text),
    read_eq]
  split
  · rename_i hmarkup
    obtain ⟨hstart, hend⟩ := Text.markup_of_quote hmarkup.1 hmarkup.2
    have hlength : 2 ≤ text.length := by
      obtain ⟨rest, rfl⟩ := hstart
      cases rest with
      | nil => exact absurd hend (by decide)
      | cons head tail => simp
    have hbare : isBare text = true := by
      simp [isBare, Text.startsWith_iff, Text.endsWith_iff, less_bytes,
        greater_bytes, hstart, hend, hlength]
    exact absurd
      ((write_eq_self_iff text).mpr ⟨isKeyword_of_less hstart, hbare⟩) hwrite
  · rw [Text.unquote?_quote, Option.getD_some]

theorem glyphs_of_quote {rest : Text} :
    Text.glyphs (34 :: rest) = .char '"' :: rest.glyphs :=
  Text.glyphs_cons_of_lt (by decide) rest

/-- What starts with a quote can only be bare because it is quoted. -/
theorem isBare_of_quote {text : Text} (hbare : isBare text = true)
    (hstart : [34] <+: text) :
    [34] <:+ text ∧ 2 ≤ text.length ∧ text.unquote?.isSome = true := by
  obtain ⟨rest, rfl⟩ := hstart
  have hletter : isBareLetter (.char '"') = false := by decide
  have hword : isBareWord ([34] ++ rest) = false := by
    rw [isBareWord, List.singleton_append, glyphs_of_quote]
    simp [hletter]
  have hnumeral : isNumeral ([34] ++ rest) = false := by
    simp [isNumeral, isUnsigned, isDigitByte, List.span_eq_takeWhile_dropWhile]
  have hmarkup : Text.startsWith ([34] ++ rest) "<" = false := by
    rw [Bool.eq_false_iff, Ne, Text.startsWith_iff, less_bytes]
    simp
  simp only [isBare, hword, hnumeral, hmarkup, Bool.false_or, Bool.false_and,
    Bool.or_false, Bool.and_eq_true, decide_eq_true_eq] at hbare
  exact ⟨(Text.endsWith_iff _ _).mp hbare.1.1.2, hbare.1.2, hbare.2⟩

theorem read_of_not_quote {text : Text} (hstart : ¬[34] <+: text) :
    read text = text := by
  have hmarkup : ¬[34, 60] <+: text :=
    fun hless => hstart (List.IsPrefix.trans ⟨[60], rfl⟩ hless)
  have hunquote : text.unquote? = none := by
    rw [Text.unquote?]
    split
    · rename_i rest hglyphs
      have htext := Text.ofGlyphs_glyphs text
      rw [hglyphs, Text.ofGlyphs_cons] at htext
      exact absurd ⟨_, htext⟩ hstart
    · rfl
  rw [read_eq, if_neg fun h => hmarkup h.1, hunquote, Option.getD_none]

/-- The scanner reads the whole text as one identifier. -/
def IsIdentifier (text : Text) : Prop := tokens? text = some [.id text]

instance (text : Text) : Decidable (IsIdentifier text) :=
  inferInstanceAs (Decidable (_ = _))

theorem IsIdentifier.exists_ofChars {text : Text}
    (hidentifier : IsIdentifier text) :
    ∃ characters, text = Text.ofChars characters :=
  Scanning.run_ofChars hidentifier text (List.mem_singleton_self _)

/-- A quoted text that stands bare: its line breaks are escaped, and unquoting
shortens it. -/
theorem IsIdentifier.unquote? {text : Text} (hidentifier : IsIdentifier text)
    (hwrite : write text = text) (hstart : [34] <+: text) :
    10 ∉ text ∧ ∃ content, text.unquote? = some content ∧
      content.length + 2 ≤ text.length := by
  have hbare := ((write_eq_self_iff text).mp hwrite).2
  obtain ⟨content, hcontent⟩ :=
    Option.isSome_iff_exists.mp (isBare_of_quote hbare hstart).2.2
  obtain ⟨characters, rfl⟩ := hidentifier.exists_ofChars
  obtain ⟨hnewline, hlength⟩ := Text.unquote?_shrinks hcontent
  refine ⟨fun hmem => hnewline ?_, content, hcontent, hlength⟩
  exact Text.mem_of_mem_ofChars hmem (by decide)

theorem recovered_of_bare {text : Text} (hidentifier : IsIdentifier text)
    (hwrite : write text = text) : recovered text = read text := by
  rw [recovered, hwrite]
  by_cases hstart : [34] <+: text
  · rw [normal_eq_self (hidentifier.unquote? hwrite hstart).1]
  · rw [normal, if_neg]
    rwa [Text.startsWith_iff, quote_bytes]

/-- The writer leaves a text as it is only if the scanner takes it for one
identifier. -/
def Faithful (text : Text) : Prop := write text = text → IsIdentifier text

instance (text : Text) : Decidable (Faithful text) :=
  inferInstanceAs (Decidable (_ → _))

/-- A faithful text comes back, unless it was written as it is and taken for a
quotation. -/
theorem recovered_eq_self {text : Text} (hfaithful : Faithful text)
    (hquotes : write text = text → [34] <+: text → QuotedMarkup text) :
    recovered text = text := by
  by_cases hwrite : write text = text
  · rw [recovered_of_bare (hfaithful hwrite) hwrite]
    by_cases hstart : [34] <+: text
    · rw [read_eq, if_pos (hquotes hwrite hstart)]
    · exact read_of_not_quote hstart
  · exact recovered_of_quoted hwrite

theorem length_recovered_lt {text : Text} (hfaithful : Faithful text)
    (hwrite : write text = text) (hstart : [34] <+: text)
    (hmarkup : ¬QuotedMarkup text) : (recovered text).length < text.length := by
  obtain ⟨-, content, hcontent, hlength⟩ :=
    (hfaithful hwrite).unquote? hwrite hstart
  rw [recovered_of_bare (hfaithful hwrite) hwrite, read_eq, if_neg hmarkup,
    hcontent, Option.getD_some]
  omega

/-- No faithful text comes back longer. -/
theorem length_recovered_le {text : Text} (hfaithful : Faithful text) :
    (recovered text).length ≤ text.length := by
  by_cases hquotes : write text = text → [34] <+: text → QuotedMarkup text
  · exact Nat.le_of_eq
      (congrArg List.length (recovered_eq_self hfaithful hquotes))
  · simp only [Classical.not_imp] at hquotes
    obtain ⟨hwrite, hstart, hmarkup⟩ := hquotes
    exact Nat.le_of_lt (length_recovered_lt hfaithful hwrite hstart hmarkup)

theorem recovered_eq_of_length {text : Text} (hfaithful : Faithful text)
    (hlength : text.length ≤ (recovered text).length) :
    recovered text = text := by
  apply recovered_eq_self hfaithful
  intro hwrite hstart
  by_contra hmarkup
  have hlt := length_recovered_lt hfaithful hwrite hstart hmarkup
  omega

/-! ### Words -/

theorem isLetter_of_isBareLetter {glyph : Glyph}
    (hletter : isBareLetter glyph = true) :
    ∃ character,
      glyph = .char character ∧ Scanning.isLetter character = true := by
  cases glyph with
  | stray byte => cases hletter
  | char character =>
      refine ⟨character, rfl, ?_⟩
      rw [isBareLetter, decide_eq_true_eq] at hletter
      rw [Scanning.isLetter, decide_eq_true_eq]
      rcases hletter with hlower | hupper | hscore | ⟨hlow, hhigh⟩
      · exact .inl hlower
      · exact .inr (.inl hupper)
      · exact .inr (.inr (.inl hscore))
      · refine .inr (.inr (.inr ⟨hlow, ?_⟩))
        rintro rfl
        exact absurd hhigh (by decide)

theorem isDigit_of_isDigitGlyph {glyph : Glyph}
    (hdigit : isDigitGlyph glyph = true) :
    ∃ character,
      glyph = .char character ∧ Scanning.isDigit character = true := by
  cases glyph with
  | stray byte => cases hdigit
  | char character => exact ⟨character, rfl, hdigit⟩

theorem exists_chars_of_all {glyphs : List Glyph}
    (hall : (glyphs.all fun glyph => isBareLetter glyph || isDigitGlyph glyph) =
      true) :
    ∃ characters : List Char, glyphs = characters.map .char ∧
      ∀ character ∈ characters,
        (Scanning.isLetter character || Scanning.isDigit character) = true := by
  induction glyphs with
  | nil => exact ⟨[], rfl, by simp⟩
  | cons glyph glyphs ih =>
      rw [List.all_cons, Bool.and_eq_true] at hall
      obtain ⟨characters, rfl, hcharacters⟩ := ih hall.2
      obtain ⟨character, rfl, hcharacter⟩ : ∃ character,
          glyph = .char character ∧
            (Scanning.isLetter character || Scanning.isDigit character) =
              true := by
        rcases Bool.or_eq_true_iff.mp hall.1 with hletter | hdigit
        · obtain ⟨character, hglyph, hscan⟩ := isLetter_of_isBareLetter hletter
          exact ⟨character, hglyph, by simp [hscan]⟩
        · obtain ⟨character, hglyph, hscan⟩ := isDigit_of_isDigitGlyph hdigit
          exact ⟨character, hglyph, by simp [hscan]⟩
      exact ⟨character :: characters, rfl,
        List.forall_mem_cons.mpr ⟨hcharacter, hcharacters⟩⟩

theorem exists_chars_of_isBareWord {text : Text}
    (hword : isBareWord text = true) :
    ∃ first rest,
      text = Text.ofChars (first :: rest) ∧ Scanning.isLetter first = true ∧
        ∀ character ∈ rest,
          (Scanning.isLetter character || Scanning.isDigit character) =
            true := by
  rw [isBareWord] at hword
  split at hword
  · cases hword
  · rename_i head tail hglyphs
    rw [Bool.and_eq_true] at hword
    obtain ⟨first, rfl, hfirst⟩ := isLetter_of_isBareLetter hword.1
    obtain ⟨rest, rfl, hrest⟩ := exists_chars_of_all hword.2
    refine ⟨first, rest, Text.glyphs_injective ?_, hfirst, hrest⟩
    rw [hglyphs, Text.glyphs_ofChars]
    rfl

theorem lookup_keywords_eq_none {text : Text}
    (hkeyword : isKeyword text = false) : keywords.lookup text = none := by
  have hkeywords : ∀ entry ∈ keywords, isKeyword entry.1 = true := by
    decide +kernel
  rw [List.lookup_eq_none_iff]
  intro entry hentry
  rw [bne_iff_ne]
  rintro rfl
  exact absurd (hkeywords entry hentry) (by simp [hkeyword])

/-- Bare words that are no keywords are scanned as identifiers. -/
theorem isIdentifier_of_isBareWord {text : Text}
    (hword : isBareWord text = true) (hkeyword : isKeyword text = false) :
    IsIdentifier text := by
  obtain ⟨first, rest, htext, hfirst, hrest⟩ := exists_chars_of_isBareWord hword
  have hrun := Scanning.run_word hfirst hrest
  rw [IsIdentifier, tokens?, htext, Text.shown_ofChars, hrun, ← htext,
    Token.ofWord, lookup_keywords_eq_none hkeyword, Option.getD_none]

/-! ### Numerals -/

theorem exists_digits_of_all {text : Text}
    (hall : ∀ byte ∈ text, isDigitByte byte = true) :
    ∃ digits : List Char, text = Text.ofChars digits ∧
      ∀ character ∈ digits, Scanning.isDigit character = true := by
  induction text with
  | nil => exact ⟨[], rfl, by simp⟩
  | cons byte text ih =>
      have hnumbers : ∀ number < 58, 48 ≤ number →
          Scanning.isDigit (Char.ofNat number) = true := by
        decide
      obtain ⟨hbyte, htext⟩ := List.forall_mem_cons.mp hall
      obtain ⟨digits, rfl, hdigits⟩ := ih htext
      obtain ⟨hlow, hhigh⟩ : 48 ≤ byte ∧ byte ≤ 57 := of_decide_eq_true hbyte
      have hhigh : byte.toNat ≤ 57 := hhigh
      have hascii : byte.toNat < 0x80 := by omega
      have hdigit := hnumbers byte.toNat (by omega) hlow
      refine ⟨Char.ofNat byte.toNat :: digits, ?_,
        List.forall_mem_cons.mpr ⟨hdigit, hdigits⟩⟩
      rw [Text.ofChars_cons, Text.utf8EncodeChar_ofNat hascii]
      rfl

theorem decimal_of_isUnsigned {text : Text}
    (hunsigned : isUnsigned text = true) :
    ∃ characters,
      text = Text.ofChars characters ∧ Scanning.Decimal characters := by
  have hsplit := List.takeWhile_append_dropWhile (p := isDigitByte) (l := text)
  have hwhole : ∀ byte ∈ text.takeWhile isDigitByte, isDigitByte byte = true :=
    List.all_eq_true.mp List.all_takeWhile
  obtain ⟨digits, hdigits, hall⟩ := exists_digits_of_all hwhole
  have hpoint : ∀ more : List Char,
      (46 :: Text.ofChars more : Text) = Text.ofChars ('.' :: more) :=
    fun _ => rfl
  rw [isUnsigned, List.span_eq_takeWhile_dropWhile] at hunsigned
  split at hunsigned
  · rename_i fraction hspan
    obtain ⟨hnone, hrest⟩ := Prod.mk.inj hspan
    rw [Bool.and_eq_true, List.all_eq_true] at hunsigned
    obtain ⟨more, rfl, hmore⟩ := exists_digits_of_all hunsigned.2
    rw [hnone, hrest, List.nil_append, hpoint] at hsplit
    cases more with
    | nil => cases hunsigned.1
    | cons first more => exact ⟨_, hsplit.symm, .fraction hmore⟩
  · rename_i first rest hspan
    obtain ⟨hsome, hrest⟩ := Prod.mk.inj hspan
    rw [hrest, List.append_nil, hdigits] at hsplit
    cases digits with
    | nil => rw [hdigits] at hsome; cases hsome
    | cons digit digits => exact ⟨_, hsplit.symm, .whole hall⟩
  · rename_i first rest fraction hspan
    obtain ⟨hsome, hrest⟩ := Prod.mk.inj hspan
    rw [List.all_eq_true] at hunsigned
    obtain ⟨more, rfl, hmore⟩ := exists_digits_of_all hunsigned
    rw [hrest, hdigits, hpoint, ← Text.ofChars_append] at hsplit
    cases digits with
    | nil => rw [hdigits] at hsome; cases hsome
    | cons digit digits => exact ⟨_, hsplit.symm, .mixed hall hmore⟩
  · cases hunsigned

theorem isIdentifier_of_isNumeral {text : Text}
    (hnumeral : isNumeral text = true) : IsIdentifier text := by
  rw [IsIdentifier, tokens?]
  unfold isNumeral at hnumeral
  split at hnumeral
  · rename_i rest
    obtain ⟨characters, rfl, hdecimal⟩ := decimal_of_isUnsigned hnumeral
    have hsign : (45 :: Text.ofChars characters : Text) =
        Text.ofChars ('-' :: characters) := rfl
    have hrun := Scanning.run_decimal Scanning.startsNumeral_sign hdecimal
    rw [hsign, Text.shown_ofChars, Scanning.run]
    simp only [show Scanning.between.step '-' = some ([], .sign) from rfl, hrun]
    simp [Scanning.idOf]
  · obtain ⟨characters, rfl, hdecimal⟩ := decimal_of_isUnsigned hnumeral
    rw [Text.shown_ofChars,
      Scanning.run_decimal Scanning.startsNumeral_between hdecimal]
    simp [Scanning.idOf]

/-! ### Texts that come back -/

/-- The scanner refuses the replacement character, which quoting leaves in
place. -/
def Scannable (text : Text) : Prop :=
  write text ≠ text → Scanning.replacement ∉ (write text).shown

instance (text : Text) : Decidable (Scannable text) :=
  inferInstanceAs (Decidable (_ → _))

/-- The texts that survive being written and read. -/
structure Kept (text : Text) : Prop where
  /-- No quote is preceded by a backslash: reading would drop the backslash. -/
  quotes_plain : ¬Text.ofString "\\\"" <:+: text
  /-- A text with quotes of its own that is written as it is would lose them. -/
  unquoted : write text = text → Text.ofString "\"" <+: text → QuotedMarkup text
  scannable : Scannable text

instance (text : Text) : Decidable (Kept text) :=
  decidable_of_iff
    (¬Text.ofString "\\\"" <:+: text ∧
      (write text = text → Text.ofString "\"" <+: text → QuotedMarkup text) ∧
      Scannable text)
    ⟨fun ⟨hplain, hunquoted, hscannable⟩ => ⟨hplain, hunquoted, hscannable⟩,
      fun hkept => ⟨hkept.quotes_plain, hkept.unquoted, hkept.scannable⟩⟩

theorem Kept.unescape_eq {text : Text} (hkept : Kept text) :
    unescape text = text :=
  (unescape_eq_self_iff text).mpr hkept.quotes_plain

theorem Kept.recovered_eq {text : Text} (hkept : Kept text)
    (hfaithful : Faithful text) : recovered text = text :=
  recovered_eq_self hfaithful hkept.unquoted

/-- A text that can be scanned and does not get shorter is kept. -/
theorem kept_of_length {text : Text} (hfaithful : Faithful text)
    (hscannable : Scannable text)
    (hrecovered : text.length ≤ (recovered text).length)
    (hunescape : text.length ≤ (unescape text).length) : Kept text where
  quotes_plain := by
    have hle := length_unescape_le text
    exact (unescape_eq_self_iff text).mp (unescape_eq_self_of_length (by omega))
  unquoted := by
    intro hwrite hstart
    by_contra hmarkup
    have hlt := length_recovered_lt hfaithful hwrite hstart hmarkup
    omega
  scannable := hscannable

/-- Neither step of reading makes a text longer, so what comes back whole is
kept by both. -/
theorem kept_of_restored {text : Text} (hfaithful : Faithful text)
    (hscannable : Scannable text)
    (hrestored : unescape (recovered text) = text) : Kept text := by
  have hlength : text.length ≤ (recovered text).length := by
    calc
      text.length = (unescape (recovered text)).length := by rw [hrestored]
      _ ≤ (recovered text).length := length_unescape_le _
  rw [recovered_eq_of_length hfaithful hlength] at hrestored
  exact kept_of_length hfaithful hscannable hlength
    (Nat.le_of_eq (congrArg List.length hrestored.symm))

/-- A kept and faithful text is the same after writing, reading and resolving
escapes. -/
theorem Kept.restored {text : Text} (hkept : Kept text)
    (hfaithful : Faithful text) : unescape (recovered text) = text := by
  rw [hkept.recovered_eq hfaithful, hkept.unescape_eq]

end GenKill.Dot.Identifier
