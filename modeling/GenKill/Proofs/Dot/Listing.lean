import GenKill.Proofs.Dot.Identifier
import GenKill.Proofs.Problem.Elements

/-!
# Lists of elements that are written and read

The text of a list is written and read like any other, but what counts
afterwards are the elements between its commas.  A list that comes back in order
has a text that is kept.  So has a list that comes back as a set: where a text
with quotes of its own loses them, every quote or backslash that is left stood
in a longer element, so a longest element with one is missing.
-/

namespace GenKill

namespace Text

theorem exists_splitOn (separator : UInt8) (text : Text) :
    ∃ first rest, splitOn separator text = first :: rest := by
  rw [splitOn_eq]
  exact List.exists_cons_of_ne_nil (List.splitOn_ne_nil separator text)

theorem splitOn_cons_self (separator : UInt8) (text : Text) :
    splitOn separator (separator :: text) = [] :: splitOn separator text := by
  rw [splitOn, if_pos rfl]

/-- A part without separators belongs to the first piece. -/
theorem splitOn_append {separator : UInt8} {lead text first : Text}
    {rest : List Text} (hlead : separator ∉ lead)
    (hpieces : splitOn separator text = first :: rest) :
    splitOn separator (lead ++ text) = (lead ++ first) :: rest := by
  induction lead with
  | nil => exact hpieces
  | cons head lead ih =>
      rw [List.mem_cons, not_or] at hlead
      rw [List.cons_append, splitOn, if_neg (Ne.symm hlead.1), ih hlead.2]
      rfl

theorem prefix_of_splitOn {separator : UInt8} {text first : Text}
    {rest : List Text} (hpieces : splitOn separator text = first :: rest) :
    first <+: text := by
  have hjoin : join [separator] (splitOn separator text) = text := by
    rw [join_eq, splitOn_eq]
    exact List.intercalate_splitOn separator
  rw [← hjoin, hpieces]
  cases rest with
  | nil => exact List.prefix_refl first
  | cons next rest => exact ⟨_, (List.append_assoc first [separator] _).symm⟩

theorem ofGlyphs_map_char (characters : List Char) :
    ofGlyphs (characters.map .char) = ofChars characters := by
  rw [ofGlyphs, List.flatMap_map]
  rfl

theorem length_le_length_ofChars (characters : List Char) :
    characters.length ≤ (ofChars characters).length := by
  have hglyphs := length_le_length_ofGlyphs (characters.map .char)
  rwa [ofGlyphs_map_char, List.length_map] at hglyphs

end Text

namespace Quoted

/-! ### Unquoting, piece by piece -/

/-- There is a quote or a backslash in the text. -/
def Marked (text : Text) : Prop := 34 ∈ text ∨ 92 ∈ text

theorem marked_append (left right : Text) :
    Marked (left ++ right) ↔ Marked left ∨ Marked right := by
  simp only [Marked, List.mem_append]
  tauto

theorem not_marked_nil : ¬Marked [] := by
  simp [Marked]

/-- Pieces of a text and the pieces of the text it was read from: no first piece
is longer than its source, and a piece with a mark comes from a longer one that
has a backslash. -/
structure Shrinks (first : Text) (rest : List Text) (source : Text)
    (sources : List Text) : Prop where
  length_le : first.length ≤ source.length
  head : Marked first → 92 ∈ source ∧ first.length < source.length
  tail : ∀ piece ∈ rest, Marked piece →
    ∃ other ∈ source :: sources, 92 ∈ other ∧ piece.length < other.length

namespace Shrinks

variable {first source : Text} {rest sources : List Text}

/-- A marked piece was read from a longer piece with a backslash in it. -/
theorem exists_longer (hshrinks : Shrinks first rest source sources)
    {piece : Text} (hpiece : piece ∈ first :: rest) (hmarked : Marked piece) :
    ∃ other ∈ source :: sources, 92 ∈ other ∧ piece.length < other.length := by
  rcases List.mem_cons.mp hpiece with rfl | hrest
  · exact ⟨source, List.mem_cons_self, hshrinks.head hmarked⟩
  · exact hshrinks.tail piece hrest hmarked

/-- A longer source serves as well. -/
theorem exists_longer_append (hshrinks : Shrinks first rest source sources)
    (used : Text) {piece : Text} (hpiece : piece ∈ first :: rest)
    (hmarked : Marked piece) :
    ∃ other ∈ (used ++ source) :: sources,
      92 ∈ other ∧ piece.length < other.length := by
  obtain ⟨other, hother, hslash, hlength⟩ :=
    hshrinks.exists_longer hpiece hmarked
  rcases List.mem_cons.mp hother with rfl | hrest
  · refine ⟨used ++ other, List.mem_cons_self,
      List.mem_append_right used hslash, ?_⟩
    rw [List.length_append]
    omega
  · exact ⟨other, List.mem_cons_of_mem _ hrest, hslash, hlength⟩

/-- Something is read that belongs to the first piece. -/
theorem append (hshrinks : Shrinks first rest source sources)
    {bytes used : Text} (hlength : bytes.length ≤ used.length)
    (hmarked : Marked bytes → 92 ∈ used ∧ bytes.length < used.length) :
    Shrinks (bytes ++ first) rest (used ++ source) sources where
  length_le := by
    have hfirst := hshrinks.length_le
    rw [List.length_append, List.length_append]
    omega
  head := by
    intro hboth
    have hfirst := hshrinks.length_le
    rw [List.length_append, List.length_append, List.mem_append]
    rcases (marked_append bytes first).mp hboth with hbytes | hrest
    · obtain ⟨hslash, hlt⟩ := hmarked hbytes
      exact ⟨.inl hslash, by omega⟩
    · obtain ⟨hslash, hlt⟩ := hshrinks.head hrest
      exact ⟨.inr hslash, by omega⟩
  tail :=
    fun _ hpiece =>
      hshrinks.exists_longer_append used (List.mem_cons_of_mem _ hpiece)

/-- A comma is read from an escape. -/
theorem escapedComma (hshrinks : Shrinks first rest source sources)
    (used : Text) : Shrinks [] (first :: rest) (used ++ source) sources where
  length_le := Nat.zero_le _
  head := fun hmarked => absurd hmarked not_marked_nil
  tail := fun _ hpiece => hshrinks.exists_longer_append used hpiece

/-- A comma is read. -/
theorem comma (hshrinks : Shrinks first rest source sources) :
    Shrinks [] (first :: rest) [] (source :: sources) where
  length_le := Nat.le_refl 0
  head := fun hmarked => absurd hmarked not_marked_nil
  tail := by
    intro piece hpiece hmarked
    obtain ⟨other, hother, hlonger⟩ := hshrinks.exists_longer hpiece hmarked
    exact ⟨other, List.mem_cons_of_mem _ hother, hlonger⟩

end Shrinks

theorem comma_of_mem_utf8EncodeChar {character : Char}
    (hmem : 44 ∈ String.utf8EncodeChar character) : character = ',' :=
  Text.eq_of_mem_utf8EncodeChar hmem (by decide)

theorem comma_not_mem_ofChars {characters : List Char}
    (hcomma : ',' ∉ characters) : 44 ∉ Text.ofChars characters :=
  fun hmem => hcomma (Text.mem_of_mem_ofChars hmem (by decide))

/-- An escape that gives a comma gives nothing else. -/
theorem Escapes.bytes_eq_comma {used : List Char} {bytes : Text}
    (hescapes : Escapes used bytes) (hmem : 44 ∈ bytes) : bytes = [44] := by
  rcases hescapes.single with ⟨byte, rfl⟩ | ⟨character, rfl⟩
  · rw [List.mem_singleton.mp hmem]
  · rw [comma_of_mem_utf8EncodeChar hmem]
    decide

/-- Reading a quoted text shortens it piece by piece. -/
theorem shrinks_readBody {glyphs : List Glyph} {content : Text}
    (hread : readBody glyphs = some content)
    (hstray : ∀ byte, .stray byte ∉ glyphs) :
    ∃ first rest source sources, content.splitOn 44 = first :: rest ∧
      (Text.ofGlyphs glyphs).splitOn 44 = source :: sources ∧
      Shrinks first rest source sources := by
  fun_induction readBody glyphs generalizing content with
  | case1 => cases hread
  | case2 rest hempty =>
      rw [List.isEmpty_iff] at hempty
      subst hempty
      cases hread
      exact ⟨[], [], [34], [], rfl, by decide, by decide,
        fun h => absurd h not_marked_nil, by simp⟩
  | case3 => cases hread
  | case4 rest bytes after hescape _ ih =>
      obtain ⟨used, rfl, hescapes⟩ := readEscape_consumes hescape
      obtain ⟨tail, htail, rfl⟩ := Option.map_eq_some_iff.mp hread
      obtain ⟨first, pieces, source, sources, hpieces, hsources, hshrinks⟩ :=
        ih htail fun byte hmem => hstray byte (by simp [hmem])
      have hlead : 44 ∉ Text.ofChars ('\\' :: used) := by
        apply comma_not_mem_ofChars
        rw [List.mem_cons, not_or]
        exact ⟨by decide, fun hmem => (hescapes.inline _ hmem).2 rfl⟩
      have htext : Text.ofGlyphs (.char '\\' :: (used.map .char ++ after)) =
          Text.ofChars ('\\' :: used) ++ Text.ofGlyphs after := by
        rw [← List.cons_append, Text.ofGlyphs_append, ← Text.ofGlyphs_map_char]
        rfl
      rw [htext, Text.splitOn_append hlead hsources]
      by_cases hcomma : 44 ∈ bytes
      · rw [hescapes.bytes_eq_comma hcomma]
        exact ⟨[], first :: pieces, _, sources,
          (Text.splitOn_cons_self 44 tail).trans (congrArg _ hpieces), rfl,
          hshrinks.escapedComma _⟩
      · have hlength : bytes.length < (Text.ofChars ('\\' :: used)).length := by
          have hused := Text.length_le_length_ofChars ('\\' :: used)
          have hbytes := hescapes.length_le
          rw [List.length_cons] at hused
          omega
        exact ⟨_, pieces, _, sources, Text.splitOn_append hcomma hpieces, rfl,
          hshrinks.append (Nat.le_of_lt hlength) fun _ =>
            ⟨List.mem_cons_self, hlength⟩⟩
  | case5 => cases hread
  | case6 => cases hread
  | case7 character rest hquote hslash hnewline ih =>
      obtain ⟨tail, htail, rfl⟩ := Option.map_eq_some_iff.mp hread
      obtain ⟨first, pieces, source, sources, hpieces, hsources, hshrinks⟩ :=
        ih htail fun byte hmem => hstray byte (by simp [hmem])
      rw [Text.ofGlyphs_cons, Glyph.bytes]
      by_cases hcomma : 44 ∈ String.utf8EncodeChar character
      · rw [comma_of_mem_utf8EncodeChar hcomma]
        exact ⟨[], first :: pieces, [], source :: sources,
          (Text.splitOn_cons_self 44 tail).trans (congrArg _ hpieces),
          (Text.splitOn_cons_self 44 _).trans (congrArg _ hsources),
          hshrinks.comma⟩
      · have hplain : ¬Marked (String.utf8EncodeChar character) := by
          rintro (hmem | hmem)
          · exact hquote (Text.eq_of_mem_utf8EncodeChar hmem (by decide))
          · exact hslash (Text.eq_of_mem_utf8EncodeChar hmem (by decide))
        exact ⟨_, pieces, _, sources, Text.splitOn_append hcomma hpieces,
          Text.splitOn_append hcomma hsources,
          hshrinks.append (Nat.le_refl _) fun hmarked => absurd hmarked hplain⟩
  | case8 byte => exact absurd List.mem_cons_self (hstray byte)

end Quoted

namespace Text

/-- In a text that is unquoted, a piece with a mark comes from a longer piece
with a mark. -/
theorem exists_longer_of_unquote? {characters : List Char}
    {content piece : Text}
    (hunquote : (ofChars characters).unquote? = some content)
    (hpiece : piece ∈ content.splitOn 44) (hmarked : Quoted.Marked piece) :
    ∃ other ∈ (ofChars characters).splitOn 44,
      Quoted.Marked other ∧ piece.length < other.length := by
  have hstray : ∀ byte, Glyph.stray byte ∉ characters.map Glyph.char := by simp
  rw [unquote?, glyphs_ofChars] at hunquote
  split at hunquote
  · rename_i body hglyphs
    rw [hglyphs] at hstray
    obtain ⟨first, rest, source, sources, hpieces, hsources, hshrinks⟩ :=
      Quoted.shrinks_readBody hunquote fun byte hmem =>
        hstray byte (List.mem_cons_of_mem _ hmem)
    have htext : ofChars characters = [34] ++ ofGlyphs body := by
      rw [← ofGlyphs_map_char, hglyphs]
      rfl
    rw [hpieces] at hpiece
    obtain ⟨other, hother, hslash, hlength⟩ :=
      hshrinks.exists_longer_append [34] hpiece hmarked
    rw [htext, splitOn_append (by decide) hsources]
    exact ⟨other, hother, .inr hslash, hlength⟩
  · cases hunquote

end Text

namespace Dot.Identifier

open Quoted

/-! ### Lists and escaped quotes -/

/-- Escaped quotes are resolved in each piece by itself. -/
theorem splitOn_unescape (text : Text) :
    (unescape text).splitOn 44 = (text.splitOn 44).map unescape := by
  fun_induction unescape text with
  | case1 rest ih =>
      obtain ⟨first, pieces, hpieces⟩ := Text.exists_splitOn 44 rest
      rw [hpieces, List.map_cons] at ih
      have hescaped : Text.splitOn 44 ([92, 34] ++ rest) = _ :=
        Text.splitOn_append (by decide) hpieces
      have hquote : Text.splitOn 44 ([34] ++ unescape rest) = _ :=
        Text.splitOn_append (by decide) ih
      exact hquote.trans (congrArg (List.map unescape) hescaped).symm
  | case2 head rest hescape ih =>
      obtain ⟨first, pieces, hpieces⟩ := Text.exists_splitOn 44 rest
      rw [hpieces, List.map_cons] at ih
      by_cases hcomma : head = 44
      · rw [hcomma, Text.splitOn_cons_self, Text.splitOn_cons_self, ih, hpieces]
        rfl
      · have hlead : 44 ∉ [head] := by simpa using Ne.symm hcomma
        have hleft : Text.splitOn 44 ([head] ++ unescape rest) = _ :=
          Text.splitOn_append hlead ih
        have hright : Text.splitOn 44 ([head] ++ rest) = _ :=
          Text.splitOn_append hlead hpieces
        have hplain : unescape (head :: first) = head :: unescape first := by
          rw [unescape]
          rintro more hhead rfl
          obtain ⟨after, hrest⟩ := Text.prefix_of_splitOn hpieces
          exact hescape (more ++ after) hhead hrest.symm
        calc Text.splitOn 44 (head :: unescape rest)
            = (head :: unescape first) :: pieces.map unescape := hleft
          _ = ((head :: first) :: pieces).map unescape := by
              rw [List.map_cons, hplain]
          _ = (Text.splitOn 44 (head :: rest)).map unescape :=
            congrArg (List.map unescape) hright.symm
  | case3 => rfl

theorem marked_of_unescape {text : Text} (hmarked : Marked (unescape text)) :
    Marked text := by
  fun_induction unescape text with
  | case1 rest ih => exact .inl (by simp)
  | case2 head rest hescape ih =>
      rw [← List.singleton_append, marked_append] at hmarked ⊢
      exact hmarked.imp_right ih
  | case3 => exact hmarked

/-- The text of a list has an escaped quote in it only if one of the elements
has. -/
theorem escape_infix_join_iff {elements : List Text}
    (hcommas : ∀ element ∈ elements, (44 : UInt8) ∉ element) :
    [92, 34] <:+: Elements.join elements ↔
      ∃ element ∈ elements, [92, 34] <:+: element := by
  constructor
  · intro hescape
    by_contra hnone
    push Not at hnone
    have hne : elements ≠ [] := by
      rintro rfl
      exact absurd hescape (by decide)
    have hself : elements.map unescape = elements :=
      (List.map_congr_left fun element hmem =>
        (unescape_eq_self_iff element).mpr (hnone element hmem)).trans
        (List.map_id elements)
    have hunescape : unescape (Elements.join elements) =
        Elements.join elements := by
      rw [← Elements.join_splitOn (unescape (Elements.join elements)),
        splitOn_unescape, Elements.splitOn_join hne hcommas, hself]
    exact (unescape_eq_self_iff _).mp hunescape hescape
  · rintro ⟨element, hmem, hescape⟩
    exact hescape.trans (Elements.infix_join hmem)

/-! ### Lists that come back -/

/-- What comes back of a text that is written and read. -/
def restored (text : Text) : Text := unescape (recovered text)

/-- A list that comes back in order has a text that is kept. -/
theorem kept_of_split_restored {elements : List Text}
    (hfaithful : Faithful (Elements.join elements))
    (hscannable : Scannable (Elements.join elements))
    (hsame : Elements.split (restored (Elements.join elements)) = elements) :
    Kept (Elements.join elements) := by
  let text := Elements.join elements
  have hlength : text.length ≤ (restored text).length := by
    calc text.length =
      (Elements.join (Elements.split (restored text))).length := by rw [hsame]
        _ ≤ (restored text).length := Elements.length_join_split_le _
  have hunescape := length_unescape_le (recovered text)
  have hrecovered : recovered text = text :=
    recovered_eq_of_length hfaithful (Nat.le_trans hlength hunescape)
  rw [restored, hrecovered] at hlength
  exact kept_of_length hfaithful hscannable (by rw [hrecovered]) hlength

/-- A quoted text that loses its quotes does not list the same elements
afterwards. -/
theorem exists_ne_of_unquoted {characters : List Char} {elements : List Text}
    {content : Text} (hcommas : ∀ element ∈ elements, (44 : UInt8) ∉ element)
    (htext : Elements.join elements = Text.ofChars characters)
    (hstart : [34] <+: Elements.join elements)
    (hunquote : (Text.ofChars characters).unquote? = some content) :
    ¬∀ element, element ∈ Elements.split (unescape content) ↔
      element ∈ elements := by
  intro hsame
  have hne : elements ≠ [] := by
    rintro rfl
    exact absurd hstart (by decide)
  have hpieces : (Text.ofChars characters).splitOn 44 = elements := by
    rw [← htext]
    exact Elements.splitOn_join hne hcommas
  -- from each element with a mark there is a longer one, without end
  have hlonger : ∀ element ∈ elements, Marked element →
      ∃ other ∈ elements, Marked other ∧ element.length < other.length := by
    intro element hmem hmarked
    obtain ⟨-, piece, hpiece, hinfix⟩ :=
      Elements.exists_piece_of_mem_split ((hsame element).mpr hmem)
    rw [splitOn_unescape] at hpiece
    obtain ⟨source, hsource, rfl⟩ := List.mem_map.mp hpiece
    have hsourceMarked : Marked source :=
      marked_of_unescape
        (hmarked.imp (fun h => hinfix.subset h) fun h => hinfix.subset h)
    obtain ⟨other, hother, hotherMarked, hlength⟩ :=
      Text.exists_longer_of_unquote? hunquote hsource hsourceMarked
    have hle := hinfix.length_le
    have hunescape := length_unescape_le source
    exact ⟨other, hpieces ▸ hother, hotherMarked, by omega⟩
  have hunbounded : ∀ bound, ∃ element ∈ elements,
      Marked element ∧ bound ≤ element.length := by
    intro bound
    induction bound with
    | zero =>
        obtain ⟨rest, hrest⟩ := hstart
        obtain ⟨first, pieces, hfirst⟩ := Text.exists_splitOn 44 rest
        have hall : elements = ([34] ++ first) :: pieces := by
          rw [← hpieces, ← htext, ← hrest]
          exact Text.splitOn_append (by decide) hfirst
        exact ⟨[34] ++ first, hall ▸ List.mem_cons_self, .inl (by simp),
          Nat.zero_le _⟩
    | succ bound ih =>
        obtain ⟨element, hmem, hmarked, hbound⟩ := ih
        obtain ⟨other, hother, hotherMarked, hlength⟩ :=
          hlonger element hmem hmarked
        exact ⟨other, hother, hotherMarked, by omega⟩
  obtain ⟨element, hmem, -, hbound⟩ :=
    hunbounded ((Elements.join elements).length + 1)
  have hle := (Elements.infix_join hmem).length_le
  omega

/-- A list that comes back as a set has a text that is kept, if its elements
have no escaped quotes. -/
theorem kept_of_mem_split_restored {elements : List Text}
    (hcommas : ∀ element ∈ elements, (44 : UInt8) ∉ element)
    (hplain : ∀ element ∈ elements, ¬[92, 34] <:+: element)
    (hfaithful : Faithful (Elements.join elements))
    (hscannable : Scannable (Elements.join elements))
    (hsame : ∀ element,
      element ∈ Elements.split (restored (Elements.join elements)) ↔
        element ∈ elements) :
    Kept (Elements.join elements) where
  quotes_plain := by
    intro hescape
    obtain ⟨element, hmem, hinfix⟩ := (escape_infix_join_iff hcommas).mp hescape
    exact hplain element hmem hinfix
  unquoted := by
    intro hwrite hstart
    by_contra hmarkup
    have hidentifier := hfaithful hwrite
    obtain ⟨-, content, hcontent, -⟩ := hidentifier.unquote? hwrite hstart
    obtain ⟨characters, htext⟩ := hidentifier.exists_ofChars
    have hrestored : restored (Elements.join elements) = unescape content := by
      rw [restored, recovered_of_bare hidentifier hwrite, read_eq,
        if_neg hmarkup, hcontent, Option.getD_some]
    rw [hrestored] at hsame
    exact exists_ne_of_unquoted hcommas htext hstart (htext ▸ hcontent) hsame
  scannable := hscannable

end Dot.Identifier

end GenKill
