import GenKill.Text.Blank
import GenKill.Text.Identifier
import GenKill.Text.Quoted

/-!
# Tokens of HCL text

A text has three kinds of regions: code, quoted templates, and heredocs.
Templates open code in their interpolations and directives, and code opens
templates, so the scanner keeps a stack of the regions it is in.  The texts
between the marks of a template are decoded here: escapes in quoted ones,
doubled signs before braces in both.
-/

namespace GenKill.Hcl

inductive Token where
  | ident (name : Text)
  | number (text : Text)
  | newline
  | openBrace
  | closeBrace
  | openBracket
  | closeBracket
  | openParen
  | closeParen
  | dot
  | comma
  | star
  | slash
  | percent
  | plus
  | minus
  | equals
  | less
  | greater
  | bang
  | question
  | colon
  | equalTo
  | notEqual
  | lessEqual
  | greaterEqual
  | conjunction
  | disjunction
  | ellipsis
  | fatArrow
  | doubleColon
  | openQuote
  | closeQuote
  | openHeredoc (flush : Bool)
  | closeHeredoc
  | literal (text : Text)
  | interpolation (strip : Bool)
  | directive (strip : Bool)
  | sequenceEnd (strip : Bool)
  deriving DecidableEq

/-- A region that the scanner is in. -/
inductive Region where
  /-- Code with as many braces open. -/
  | code (braces : Nat)
  | quoted
  /-- A heredoc with its end marker; whether a line starts here. -/
  | heredoc (marker : Text) (atLineStart : Bool)

namespace Scanner

/-- The first character of a text, as its bytes.  Only the lengths of sequences
are checked. -/
def firstCharacter? : Text → Option (Text × Text)
  | [] => none
  | head :: tail =>
      let count :=
        if head < 0x80 then some 0
        else if 0xc0 ≤ head ∧ head ≤ 0xdf then some 1
        else if 0xe0 ≤ head ∧ head ≤ 0xef then some 2
        else if 0xf0 ≤ head ∧ head ≤ 0xf7 then some 3
        else none
      match count with
      | none => none
      | some count =>
          let more := tail.take count
          if more.length = count ∧
              more.all fun byte => 0x80 ≤ byte ∧ byte ≤ 0xbf then
            some (head :: more, tail.drop count)
          else none

/-! ### Words and numbers -/

def isWordStart (glyph : Glyph) : Bool :=
  match glyph with
  | .char character => character = '_' || Identifier.isStart character
  | .stray _ => false

def isWordPart (glyph : Glyph) : Bool :=
  match glyph with
  | .char character => character = '-' || Identifier.isContinue character
  | .stray _ => false

/-- The characters that continue a word, and the rest. -/
def wordTail : Nat → Text → Text × Text
  | fuel + 1, head :: tail =>
      let glyph := Text.firstGlyph head tail
      if isWordPart glyph then
        let (more, rest) := wordTail fuel (tail.drop (glyph.bytes.length - 1))
        (glyph.bytes ++ more, rest)
      else ([], head :: tail)
  | _, text => ([], text)

/-- The word at the start of a text, and the rest. -/
def word? (text : Text) : Option (Text × Text) :=
  match text with
  | [] => none
  | head :: tail =>
      if isWordStart (Text.firstGlyph head tail) then
        some (wordTail text.length text)
      else none

def isDigit (byte : UInt8) : Bool := decide (48 ≤ byte ∧ byte ≤ 57)

/-- The length of the longest number: digits, points and exponents in any order,
but no point at the end.  `length` counts what is read, `best` what is read up
to the last digit. -/
def numberLength : Nat → Nat → Text → Nat
  | length, best, head :: tail =>
      if isDigit head then numberLength (length + 1) (length + 1) tail
      else if head = 46 then numberLength (length + 1) best tail
      else if head = 101 ∨ head = 69 then
        match tail with
        | sign :: digit :: rest =>
            if isDigit sign then
              numberLength (length + 2) (length + 2) (digit :: rest)
            else if (sign = 43 ∨ sign = 45) ∧ isDigit digit then
              numberLength (length + 3) (length + 3) rest
            else best
        | [digit] => if isDigit digit then length + 2 else best
        | [] => best
      else best
  | _, best, [] => best

/-! ### Texts of templates -/

/-- A quoted escape after its backslash: the bytes it stands for, and the
rest. -/
def escape? : Text → Option (Text × Text)
  | 110 :: rest => some ([10], rest)
  | 114 :: rest => some ([13], rest)
  | 116 :: rest => some ([9], rest)
  | 34 :: rest => some ([34], rest)
  | 92 :: rest => some ([92], rest)
  | 117 :: rest => point? 4 rest
  | 85 :: rest => point? 8 rest
  | _ => none
where
  point? (count : Nat) (text : Text) : Option (Text × Text) :=
    match Quoted.digits? Quoted.hexValue? 16 count 0
      ((text.take count).map glyphOf) with
    | some (number, _) =>
        if number.isValidChar then
          some (String.utf8EncodeChar (Char.ofNat number), text.drop count)
        else none
    | none => none
  glyphOf (byte : UInt8) : Glyph :=
    if byte < 0x80 then .char (Char.ofNat byte.toNat) else .stray byte

/-- A doubled sign before a brace stands for one. -/
def doubled? : Text → Option (Text × Text)
  | 36 :: 36 :: 123 :: rest => some ([36, 123], rest)
  | 37 :: 37 :: 123 :: rest => some ([37, 123], rest)
  | _ => none

/-- An interpolation or a directive starts here. -/
def opensSequence : Text → Bool
  | 36 :: 123 :: _ => true
  | 37 :: 123 :: _ => true
  | _ => false

def isLineBreak (byte : UInt8) : Bool := byte = 10 ∨ byte = 13

/-- The literal part of a quoted template: its text and the rest. -/
def quotedLiteral : Nat → Text → Option (Text × Text)
  | 0, text => some ([], text)
  | fuel + 1, text =>
      match text with
      | [] => some ([], [])
      | 34 :: _ => some ([], text)
      | 92 :: rest => continue? fuel (escape? rest)
      | head :: _ =>
          if opensSequence text ∨ isLineBreak head then some ([], text)
          else match doubled? text with
            | some found => continue? fuel (some found)
            | none => continue? fuel (firstCharacter? text)
where
  continue? (fuel : Nat) : Option (Text × Text) → Option (Text × Text)
    | none => none
    | some (bytes, rest) =>
        (quotedLiteral fuel rest).map fun (more, rest) => (bytes ++ more, rest)

/-- The literal part of a heredoc up to the end of the line or to a sequence:
the bytes as they stand, the text, and the rest. -/
def heredocLiteral : Nat → Text → Option (Text × Text × Text)
  | 0, text => some ([], [], text)
  | fuel + 1, text =>
      match text with
      | [] => some ([], [], [])
      | 10 :: rest => some ([10], [10], rest)
      | 13 :: 10 :: rest => some ([13, 10], [13, 10], rest)
      | 13 :: _ => none
      | _ =>
          if opensSequence text then some ([], [], text)
          else match doubled? text with
            | some (bytes, rest) => proceed fuel (text.take 3) bytes rest
            | none =>
                match firstCharacter? text with
                | some (bytes, rest) => proceed fuel bytes bytes rest
                | none => none
where
  proceed (fuel : Nat) (raw bytes rest : Text) : Option (Text × Text × Text) :=
    (heredocLiteral fuel rest).map fun (raw', bytes', rest) =>
      (raw ++ raw', bytes ++ bytes', rest)

/-! ### Regions -/

/-- What one step of the scanner reads: its tokens, the regions it is then in,
and the rest. -/
abbrev Step := Option (List Token × List Region × Text)

/-- The mark that strips blanks next to a sequence. -/
def strip : Text → Bool × Text
  | 126 :: rest => (true, rest)
  | rest => (false, rest)

/-- Opens a sequence of a template whose regions are given. -/
def openSequence (regions : List Region) : Text → Step
  | 36 :: 123 :: rest =>
      let (strip, rest) := strip rest
      some ([.interpolation strip], .code 0 :: regions, rest)
  | 37 :: 123 :: rest =>
      let (strip, rest) := strip rest
      some ([.directive strip], .code 0 :: regions, rest)
  | _ => none

def stepQuoted (outer : List Region) (text : Text) : Step :=
  match text with
  | 34 :: rest => some ([.closeQuote], outer, rest)
  | _ =>
      if opensSequence text then openSequence (.quoted :: outer) text
      else match quotedLiteral text.length text with
        | some (literal, rest) =>
            if rest.length < text.length then
              some ([.literal literal], .quoted :: outer, rest)
            else none
        | none => none

def stepHeredoc (outer : List Region) (marker : Text) (atLineStart : Bool)
    (text : Text) : Step :=
  if opensSequence text then openSequence (.heredoc marker false :: outer) text
  else match heredocLiteral text.length text with
    | none => none
    | some (raw, literal, rest) =>
        let ended := raw.getLast? = some 10
        if ended ∧ atLineStart ∧ raw.trim = marker then
          some ([.closeHeredoc, .newline], outer, rest)
        else some ([.literal literal], .heredoc marker ended :: outer, rest)

/-- The marker of a heredoc and the text after its first line. -/
def heredocMarker? (text : Text) : Option (Text × Text) :=
  match word? text with
  | some (marker, 10 :: rest) => some (marker, rest)
  | some (marker, 13 :: 10 :: rest) => some (marker, rest)
  | _ => none

/-- The text after the end of the line, and whether there was one. -/
def skipLine : Text → Bool × Text
  | [] => (false, [])
  | head :: tail => if head = 10 then (true, tail) else skipLine tail

/-- The text after the end of a comment. -/
def skipComment : Text → Option Text
  | 42 :: 47 :: rest => some rest
  | _ :: rest => skipComment rest
  | [] => none

/-- Signs of more than one character, longest first. -/
def longSigns : List (Text × Token) :=
  [("...", .ellipsis), ("==", .equalTo), ("!=", .notEqual), ("<=", .lessEqual),
   (">=", .greaterEqual), ("&&", .conjunction), ("||", .disjunction),
   ("=>", .fatArrow), ("::", .doubleColon)]

def signs : List (Char × Token) :=
  [('[', .openBracket), (']', .closeBracket), ('(', .openParen),
   (')', .closeParen), ('.', .dot), (',', .comma), ('*', .star), ('/', .slash),
   ('%', .percent), ('+', .plus), ('-', .minus), ('=', .equals), ('<', .less),
   ('>', .greater), ('!', .bang), ('?', .question), (':', .colon)]

/-- Tokens that do not change the region. -/
def plainToken? (text : Text) : Option (List Token × Text) :=
  match longSigns.findSome? fun (sign, token) =>
      (text.dropStart? sign).map fun rest => (token, rest) with
  | some (token, rest) => some ([token], rest)
  | none =>
      match text with
      | [] => none
      | head :: tail =>
          if isDigit head then
            let length := numberLength 0 0 text
            some ([.number (text.take length)], text.drop length)
          else match signs.find? fun (sign, _) => Text.byte sign = head with
            | some (_, token) => some ([token], tail)
            | none => (word? text).map fun (name, rest) => ([.ident name], rest)

/-- A comment that ends its line counts as the end of the line. -/
def lineComment (regions : List Region) (text : Text) : Step :=
  match skipLine text with
  | (true, rest) => some ([.newline], regions, rest)
  | (false, rest) => some ([], regions, rest)

def stepCode (outer : List Region) (braces : Nat) (text : Text) : Step :=
  let here := .code braces :: outer
  let plain := (plainToken? text).map fun (tokens, rest) => (tokens, here, rest)
  match text with
  | 32 :: rest => some ([], here, rest)
  | 9 :: rest => some ([], here, rest)
  | 10 :: rest => some ([.newline], here, rest)
  | 13 :: 10 :: rest => some ([.newline], here, rest)
  | 35 :: rest => lineComment here rest
  | 47 :: 47 :: rest => lineComment here rest
  | 47 :: 42 :: rest => (skipComment rest).map fun rest => ([], here, rest)
  | 34 :: rest => some ([.openQuote], .quoted :: here, rest)
  | 123 :: rest => some ([.openBrace], .code (braces + 1) :: outer, rest)
  | 125 :: rest =>
      if braces = 0 ∧ !outer.isEmpty then
        some ([.sequenceEnd false], outer, rest)
      else some ([.closeBrace], .code (braces - 1) :: outer, rest)
  | 126 :: 125 :: rest =>
      if braces = 0 ∧ !outer.isEmpty then
        some ([.sequenceEnd true], outer, rest)
      else none
  | 60 :: 60 :: 45 :: rest =>
      match heredocMarker? rest with
      | some (marker, rest) =>
          some ([.openHeredoc true], .heredoc marker true :: here, rest)
      | none => plain
  | 60 :: 60 :: rest =>
      match heredocMarker? rest with
      | some (marker, rest) =>
          some ([.openHeredoc false], .heredoc marker true :: here, rest)
      | none => plain
  | _ => plain

def step : List Region → Text → Step
  | [], _ => none
  | .code braces :: outer, text => stepCode outer braces text
  | .quoted :: outer, text => stepQuoted outer text
  | .heredoc marker atLineStart :: outer, text =>
      stepHeredoc outer marker atLineStart text

/-- The tokens of a text; every step reads at least one byte. -/
def run : Nat → List Region → Text → Option (List Token)
  | _, _, [] => some []
  | 0, _, _ :: _ => none
  | fuel + 1, regions, text =>
      match step regions text with
      | none => none
      | some (tokens, regions, rest) =>
          (run fuel regions rest).map (tokens ++ ·)

end Scanner

/-- A mark at the start of some files, which carries no meaning. -/
def byteOrderMark : Text := [0xef, 0xbb, 0xbf]

/-- The tokens of an HCL text; none if some part of it is no token. -/
def tokens? (source : Text) : Option (List Token) :=
  let text := (source.dropStart? byteOrderMark).getD source
  Scanner.run text.length [.code 0] text

end GenKill.Hcl
