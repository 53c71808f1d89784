import GenKill.Dot.Token
import GenKill.Proofs.Text.Quoted

/-!
# Scanning a text part by part

A text that is put together from parts scans to the tokens of its parts, as long
as no token reaches over a seam.  After a bracket or a blank nothing is pending;
a word or a number ends where a character follows that can belong to neither.
-/

namespace GenKill.Dot

namespace Scanning

/-- The tokens completed by a list of characters, and the state after them. -/
def scan : Scanning → List Char → Option (List Token × Scanning)
  | state, [] => some ([], state)
  | state, character :: rest =>
      (state.step character).bind fun first =>
        (scan first.2 rest).map fun more => (first.1 ++ more.1, more.2)

/-- A text is scanned part by part. -/
theorem scan_append (state : Scanning) (left right : List Char) :
    state.scan (left ++ right) =
      (state.scan left).bind fun first =>
        (first.2.scan right).map fun more => (first.1 ++ more.1, more.2) := by
  induction left generalizing state with
  | nil => simp [scan]
  | cons character left ih =>
      simp only [List.cons_append, scan]
      cases state.step character with
      | none => rfl
      | some first =>
          simp only [Option.bind_some, ih, Option.map_bind, Option.bind_map]
          cases first.2.scan left with
          | none => rfl
          | some middle => simp [Function.comp_def]

/-- Scanning a whole text is scanning it and then ending the last token. -/
theorem run_eq_scan (state : Scanning) (characters : List Char) :
    state.run characters =
      (state.scan characters).bind fun scanned =>
        scanned.2.finish.map (scanned.1 ++ ·) := by
  induction characters generalizing state with
  | nil => simp [run, scan]
  | cons character characters ih =>
      simp only [run, scan]
      cases state.step character with
      | none => rfl
      | some first =>
          simp only [Option.bind_some, ih, Option.map_bind, Option.bind_map]
          cases first.2.scan characters with
          | none => rfl
          | some middle => simp [Function.comp_def]

/-- A character that ends every word and number before it. -/
def Delimits (character : Char) : Prop :=
  isLetter character = false ∧ isDigit character = false ∧ character ≠ '.'

instance (character : Char) : Decidable (Delimits character) :=
  inferInstanceAs (Decidable (_ ∧ _))

theorem step_of_finish {state : Scanning} {last : List Token} {character : Char}
    (hfinish : state.finish = some last) (hdelimits : Delimits character) :
    state.step character = (start character).map fun first =>
      (last ++ first.1, first.2) := by
  obtain ⟨hletter, hdigit, hpoint⟩ := hdelimits
  have hrestart : state.restart character =
      (start character).map fun first => (last ++ first.1, first.2) := by
    rw [restart, hfinish]
    cases start character with
    | none => rfl
    | some first => rfl
  cases state with
  | between =>
      cases hfinish
      rw [step]
      cases start character with
      | none => rfl
      | some first => rfl
  | word read => rw [← hrestart, step, hletter, hdigit]; rfl
  | integer read => rw [← hrestart, step, hdigit, if_neg hpoint]; rfl
  | fraction read => rw [← hrestart, step, hdigit]; rfl
  | sign => cases hfinish
  | point read => cases hfinish
  | quoted read => cases hfinish
  | escaped read => cases hfinish
  | markup nested read => cases hfinish
  | slash => cases hfinish
  | lineComment => cases hfinish
  | blockComment => cases hfinish
  | blockStar => cases hfinish

/-- What has been scanned completely is not changed by a delimiter after it. -/
theorem scan_delimiter {state : Scanning} {characters : List Char}
    {tokens : List Token} {character : Char}
    (hrun : state.run characters = some tokens)
    (hdelimits : Delimits character) :
    state.scan (characters ++ [character]) =
      (between.scan [character]).map fun first =>
        (tokens ++ first.1, first.2) := by
  rw [run_eq_scan] at hrun
  obtain ⟨⟨done, next⟩, hscan, hlast⟩ := Option.bind_eq_some_iff.mp hrun
  obtain ⟨last, hfinish, rfl⟩ := Option.map_eq_some_iff.mp hlast
  have hbetween : between.step character = start character := rfl
  rw [scan_append, hscan]
  simp only [Option.bind_some, scan, step_of_finish hfinish hdelimits, hbetween]
  cases start character with
  | none => rfl
  | some first => simp

/-! ### Identifiers are UTF-8 -/

/-- The identifiers among the tokens are made of characters. -/
def OfChars (tokens : List Token) : Prop :=
  ∀ text, .id text ∈ tokens → ∃ characters, text = Text.ofChars characters

theorem ofChars_append {left right : List Token} (hleft : OfChars left)
    (hright : OfChars right) : OfChars (left ++ right) := by
  intro text hmem
  rcases List.mem_append.mp hmem with hmem | hmem
  · exact hleft text hmem
  · exact hright text hmem

theorem ofChars_idOf (read : List Char) : OfChars [idOf read] := by
  intro text hmem
  rw [List.mem_singleton, idOf, Token.id.injEq] at hmem
  exact ⟨read.reverse, hmem⟩

theorem ofWord_eq_id {word text : Text} (hword : Token.ofWord word = .id text) :
    text = word := by
  have hkeywords : ∀ entry ∈ keywords, entry.2 ≠ .id text := by simp [keywords]
  cases hlookup : keywords.lookup word with
  | none =>
      simp only [Token.ofWord, hlookup, Option.getD_none,
        Token.id.injEq] at hword
      exact hword.symm
  | some token =>
      simp only [Token.ofWord, hlookup, Option.getD_some] at hword
      obtain ⟨before, after, hentry, -⟩ := List.lookup_eq_some_iff.mp hlookup
      exact absurd hword (hkeywords (word, token) (by simp [hentry]))

theorem finish_ofChars {state : Scanning} {tokens : List Token}
    (hfinish : state.finish = some tokens) : OfChars tokens := by
  cases state <;> cases hfinish
  case between => intro text hmem; cases hmem
  case word read =>
    intro text hmem
    exact ⟨read.reverse, ofWord_eq_id (List.mem_singleton.mp hmem).symm⟩
  case integer read => exact ofChars_idOf read
  case fraction read => exact ofChars_idOf read

theorem start_ofChars {character : Char} {tokens : List Token} {next : Scanning}
    (hstart : start character = some (tokens, next)) : OfChars tokens := by
  intro text hmem
  unfold start at hstart
  repeat' split at hstart
  all_goals cases hstart
  all_goals simp at hmem

theorem restart_ofChars {state next : Scanning} {character : Char}
    {tokens : List Token}
    (hrestart : state.restart character = some (tokens, next)) :
    OfChars tokens := by
  unfold restart at hrestart
  split at hrestart
  · rename_i last more next' hfinish hstart
    cases hrestart
    exact ofChars_append (finish_ofChars hfinish) (start_ofChars hstart)
  · cases hrestart

theorem step_ofChars {state next : Scanning} {character : Char}
    {tokens : List Token} (hstep : state.step character = some (tokens, next)) :
    OfChars tokens := by
  unfold step at hstep
  repeat' split at hstep
  all_goals
    first
    | exact start_ofChars hstep
    | exact restart_ofChars hstep
    | cases hstep
  all_goals
    first
    | exact ofChars_idOf _
    | simp [OfChars]

theorem run_ofChars {state : Scanning} {characters : List Char}
    {tokens : List Token} (hrun : state.run characters = some tokens) :
    OfChars tokens := by
  induction characters generalizing state tokens with
  | nil => exact finish_ofChars hrun
  | cons character characters ih =>
      rw [run] at hrun
      split at hrun
      · cases hrun
      · rename_i first next hstep
        obtain ⟨more, hmore, rfl⟩ := Option.map_eq_some_iff.mp hrun
        exact ofChars_append (step_ofChars hstep) (ih hmore)

/-! ### Words and numerals -/

/-- A state that only collects characters of one kind. -/
theorem scan_while {state : List Char → Scanning} {accepts : Char → Prop}
    (hstep : ∀ read character, accepts character →
      (state read).step character = some ([], state (character :: read)))
    {characters : List Char} (read : List Char)
    (haccepts : ∀ character ∈ characters, accepts character) :
    (state read).scan characters =
      some ([], state (characters.reverse ++ read)) := by
  induction characters generalizing read with
  | nil => rfl
  | cons character characters ih =>
      have hrest := ih (character :: read) fun other hmem =>
        haccepts other (List.mem_cons_of_mem _ hmem)
      rw [scan, hstep read character (haccepts character List.mem_cons_self),
        Option.bind_some, hrest]
      simp

theorem scan_word {characters : List Char} (read : List Char)
    (hword : ∀ character ∈ characters,
      (isLetter character || isDigit character) = true) :
    (word read).scan characters =
      some ([], word (characters.reverse ++ read)) :=
  scan_while (fun _ _ hletter => by rw [step, if_pos hletter]) read hword

/-- A letter with letters and digits behind it is one word. -/
theorem run_word {first : Char} {rest : List Char}
    (hfirst : isLetter first = true)
    (hrest : ∀ character ∈ rest,
      (isLetter character || isDigit character) = true) :
    between.run (first :: rest) =
      some [.ofWord (Text.ofChars (first :: rest))] := by
  have hblank : isBlank first = false := by
    rw [isBlank, decide_eq_false_iff_not]
    rintro (rfl | rfl | rfl | rfl) <;> exact absurd hfirst (by decide)
  have hstart : between.step first = some ([], word [first]) := by
    simp [step, start, hblank, hfirst]
  rw [run_eq_scan, scan, hstart, Option.bind_some, scan_word [first] hrest]
  simp [finish]

theorem scan_integer {digits : List Char} (read : List Char)
    (hdigits : ∀ character ∈ digits, isDigit character = true) :
    (integer read).scan digits = some ([], integer (digits.reverse ++ read)) :=
  scan_while (fun _ _ hdigit => by rw [step, if_pos hdigit]) read hdigits

theorem scan_fraction {digits : List Char} (read : List Char)
    (hdigits : ∀ character ∈ digits, isDigit character = true) :
    (fraction read).scan digits =
      some ([], fraction (digits.reverse ++ read)) :=
  scan_while (fun _ _ hdigit => by rw [step, if_pos hdigit]) read hdigits

/-- Digits with at most one point among them, and at least one digit. -/
inductive Decimal : List Char → Prop
  | whole {first : Char} {digits : List Char}
      (hdigits : ∀ character ∈ first :: digits, isDigit character = true) :
      Decimal (first :: digits)
  | mixed {first : Char} {digits more : List Char}
      (hdigits : ∀ character ∈ first :: digits, isDigit character = true)
      (hmore : ∀ character ∈ more, isDigit character = true) :
      Decimal (first :: digits ++ '.' :: more)
  | fraction {first : Char} {digits : List Char}
      (hdigits : ∀ character ∈ first :: digits, isDigit character = true) :
      Decimal ('.' :: first :: digits)

/-- A state in which a numeral can start, after `lead` has been read. -/
structure StartsNumeral (state : Scanning) (lead : List Char) : Prop where
  digit : ∀ character, isDigit character = true →
    state.step character = some ([], integer (character :: lead))
  point : state.step '.' = some ([], point ('.' :: lead))

theorem startsNumeral_between : StartsNumeral between [] where
  digit character hdigit := by
    have hrange : '0' ≤ character ∧ character ≤ '9' := of_decide_eq_true hdigit
    have hhigh : character.toNat ≤ 57 := hrange.2
    have hlow : 48 ≤ character.toNat := hrange.1
    have hblank : isBlank character = false := by
      rw [isBlank, decide_eq_false_iff_not]
      rintro (rfl | rfl | rfl | rfl) <;> exact absurd hlow (by decide)
    have hletter : isLetter character = false := by
      rw [isLetter, decide_eq_false_iff_not]
      rintro (⟨hlower, -⟩ | ⟨hupper, -⟩ | rfl | ⟨hwide, -⟩)
      · have : 97 ≤ character.toNat := hlower
        omega
      · have : 65 ≤ character.toNat := hupper
        omega
      · exact absurd hhigh (by decide)
      · omega
    simp [step, start, hblank, hletter, hdigit]
  point := rfl

theorem startsNumeral_sign : StartsNumeral sign ['-'] where
  digit character hdigit := by
    have hdash : character ≠ '-' := by
      rintro rfl; exact absurd hdigit (by decide)
    have hgreater : character ≠ '>' := by
      rintro rfl; exact absurd hdigit (by decide)
    have hpoint : character ≠ '.' := by
      rintro rfl; exact absurd hdigit (by decide)
    simp [step, hdash, hgreater, hpoint, hdigit]
  point := rfl

/-- A decimal is one identifier. -/
theorem run_decimal {state : Scanning} {lead characters : List Char}
    (hstarts : StartsNumeral state lead) (hdecimal : Decimal characters) :
    state.run characters = some [idOf (characters.reverse ++ lead)] := by
  have hpoint : ∀ read,
      (integer read).step '.' = some ([], fraction ('.' :: read)) :=
    fun _ => rfl
  rw [run_eq_scan]
  cases hdecimal with
  | @whole first digits hdigits =>
      obtain ⟨hfirst, hdigits⟩ := List.forall_mem_cons.mp hdigits
      rw [scan, hstarts.digit first hfirst, Option.bind_some,
        scan_integer _ hdigits]
      simp [finish]
  | @mixed first digits more hdigits hmore =>
      obtain ⟨hfirst, hdigits⟩ := List.forall_mem_cons.mp hdigits
      rw [List.cons_append, scan, hstarts.digit first hfirst, Option.bind_some,
        scan_append, scan_integer _ hdigits, Option.bind_some, scan, hpoint,
        Option.bind_some, scan_fraction _ hmore]
      simp [finish]
  | @fraction first digits hdigits =>
      obtain ⟨hfirst, hdigits⟩ := List.forall_mem_cons.mp hdigits
      have hstep : (point ('.' :: lead)).step first =
          some ([], .fraction (first :: '.' :: lead)) := by
        rw [step, if_pos hfirst]
      rw [scan, hstarts.point, Option.bind_some, scan, hstep, Option.bind_some,
        scan_fraction _ hdigits]
      simp [finish]

/-! ### Quoted identifiers -/

theorem isContent_of_visible {character : Char}
    (hvisible : 0x20 < character.toNat ∧ character.toNat < 0x7f) :
    isContent character = true := by
  rw [isContent, decide_eq_true_eq]
  refine ⟨by omega, ?_⟩
  rintro rfl
  exact absurd hvisible.2 (by decide)

/-- Inside quotes, characters that need no escape are taken as they are. -/
theorem scan_quoted_plain {characters : List Char} (read : List Char)
    (hplain : ∀ character ∈ characters,
      isContent character = true ∧ character ≠ '"' ∧ character ≠ '\\') :
    (quoted read).scan characters =
      some ([], quoted (characters.reverse ++ read)) := by
  refine scan_while (fun read character hcharacter => ?_) read hplain
  obtain ⟨hcontent, hquote, hslash⟩ := hcharacter
  rw [step, if_neg hquote, if_neg hslash, if_pos hcontent]

/-- Of the characters that stand for themselves between quotes, only one is
refused. -/
theorem isContent_of_isPrintable {character : Char}
    (hprintable : isPrintable character = true)
    (hreplacement : character ≠ replacement) : isContent character = true := by
  have hzero : character.toNat ≠ 0 := by
    intro hzero
    have hnul : character = Char.ofNat 0 := by rw [← hzero, Char.ofNat_toNat]
    rw [hnul] at hprintable
    exact absurd hprintable (by decide)
  simp [isContent, hreplacement, hzero]

/-- An escape never ends the quoted text. -/
theorem scan_escape {glyph : Glyph} {body : List Char}
    (hescape : Quoted.EscapeOf glyph body) (read : List Char) :
    (quoted read).scan ('\\' :: body) =
      some ([], quoted (body.reverse ++ '\\' :: read)) := by
  obtain ⟨head, tail, rfl, hplain⟩ := hescape.plain
  have hvisible : ∀ character ∈ head :: tail, isContent character = true := by
    intro character hmem
    obtain ⟨hlow, hhigh, -⟩ := hescape.visible character hmem
    exact isContent_of_visible ⟨hlow, hhigh⟩
  have htail := scan_quoted_plain (head :: '\\' :: read) fun character hmem =>
    ⟨hvisible character (List.mem_cons_of_mem _ hmem), hplain character hmem⟩
  simp [scan, step, hvisible head List.mem_cons_self, htail]

theorem replacement_not_mem_escape {glyph : Glyph} {body : List Char}
    (hescape : Quoted.EscapeOf glyph body) : replacement ∉ '\\' :: body := by
  rw [List.mem_cons]
  rintro (hslash | hbody)
  · exact absurd hslash (by decide)
  · exact absurd (hescape.visible _ hbody).2.1 (by decide)

/-- The replacement character is the only one that a quoted text can hold and
the scanner refuses. -/
theorem scan_spelled {glyphs : List Glyph} {characters : List Char}
    (hspelled : Quoted.Spelled glyphs characters) (read : List Char) :
    (quoted read).scan characters =
      if replacement ∈ characters then none
      else some ([], quoted (characters.reverse ++ read)) := by
  induction hspelled generalizing read with
  | nil => rfl
  | @char glyphs characters character hquote hslash hprintable hrest ih =>
      by_cases hreplacement : character = replacement
      · have hcontent : isContent character = false := by
          simp [isContent, hreplacement]
        have hmem : replacement ∈ character :: characters :=
          hreplacement ▸ List.mem_cons_self
        simp [scan, step, hcontent, hquote, hslash, hmem]
      · have hcontent := isContent_of_isPrintable hprintable hreplacement
        simp only [scan, step, hcontent, hquote, hslash, if_false, if_true,
          Option.bind_some, ih, List.mem_cons, Ne.symm hreplacement, false_or]
        split <;> simp
  | @escape glyph glyphs body characters hescape hrest ih =>
      have hmem : replacement ∈ '\\' :: body ++ characters ↔
          replacement ∈ characters := by
        rw [List.mem_append]
        exact or_iff_right (replacement_not_mem_escape hescape)
      rw [← List.cons_append, scan_append, scan_escape hescape,
        Option.bind_some, ih]
      simp only [hmem]
      split <;> simp

/-- A quoted text is one identifier, unless it holds the replacement
character. -/
theorem scan_quote (text : Text) :
    between.scan text.quote.shown =
      if replacement ∈ text.quote.shown then none
      else some ([.id text.quote], between) := by
  obtain ⟨characters, hspelled, hquote⟩ := Text.exists_quote text
  have hopen : between.step '"' = some ([], quoted ['"']) := rfl
  have hmem : replacement ∈ '"' :: (characters ++ ['"']) ↔
      replacement ∈ characters := by
    have hne : replacement ≠ '"' := by decide
    simp [hne]
  rw [hquote, Text.shown_ofChars, scan, hopen]
  simp only [Option.bind_some, scan_append, scan_spelled hspelled, hmem]
  split
  · rfl
  · simp [scan, step, idOf]

end Scanning

end GenKill.Dot
