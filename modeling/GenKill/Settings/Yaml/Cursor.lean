import GenKill.Text.Glyph

/-!
# Positions in YAML text

The text is read one character at a time.  A position knows its line and its
column, because indentation has a meaning.  Any of five characters ends a line.
-/

namespace GenKill.Settings.Yaml

def isBlank (character : Char) : Bool := character = ' ' || character = '\t'

def isBreak (character : Char) : Bool :=
  character = '\n' || character = '\r' || character = '\u0085' ||
    character = '\u2028' || character = '\u2029'

/-- How a line break is kept: all but two become a line feed. -/
def keptBreak (character : Char) : Char :=
  if character = '\u2028' ∨ character = '\u2029' then character else '\n'

/-- Nothing, a blank or a line break comes next. -/
def endsWord : List Char → Bool
  | [] => true
  | next :: _ => isBlank next || isBreak next

/-- Characters of names and handles. -/
def isNameChar (character : Char) : Bool :=
  character.isAlphanum || character = '_' || character = '-'

/-- A place in a text: what follows, and what has been passed. -/
structure Cursor where
  rest : List Char
  line : Nat := 0
  column : Nat := 0
  index : Nat := 0

namespace Cursor

/-- Passes characters that are no line breaks. -/
def skip (cursor : Cursor) (count : Nat := 1) : Cursor :=
  { cursor with
    rest := cursor.rest.drop count
    column := cursor.column + count
    index := cursor.index + count }

/-- Passes a line break. -/
def skipLine (cursor : Cursor) : Cursor :=
  let count := match cursor.rest with
    | '\r' :: '\n' :: _ => 2
    | _ => 1
  { rest := cursor.rest.drop count
    line := cursor.line + 1
    column := 0
    index := cursor.index + count }

/-- Passes the characters of a kind that holds no line breaks. -/
def skipWhile (cursor : Cursor) (test : Char → Bool) : Cursor :=
  cursor.skip (cursor.rest.takeWhile test).length

/-- Passes a comment, if there is one, up to the end of the line. -/
def skipComment (cursor : Cursor) : Cursor :=
  match cursor.rest with
  | '#' :: _ => cursor.skipWhile fun character => !isBreak character
  | _ => cursor

def atLineEnd (cursor : Cursor) : Bool :=
  match cursor.rest with
  | [] => true
  | next :: _ => isBreak next

/-- Passes the end of a line, unless the text ends there. -/
def skipLineEnd (cursor : Cursor) : Cursor :=
  if cursor.rest.isEmpty then cursor else cursor.skipLine

/-- Three characters at the start of a line that stand alone. -/
def atMark (cursor : Cursor) (mark : Char) : Bool :=
  match cursor.rest with
  | first :: second :: third :: rest =>
      cursor.column = 0 && first = mark && second = mark && third = mark &&
        endsWord rest
  | _ => false

/-- A mark between documents. -/
def atDocumentMark (cursor : Cursor) : Bool :=
  cursor.atMark '-' || cursor.atMark '.'

end Cursor

/-! ### Blanks between the words of a scalar -/

/-- Blanks and line breaks: the blanks before the first line break, that break,
and the others. -/
structure Gap where
  blanks : List Char := []
  broken : Bool := false
  first : List Char := []
  more : List Char := []

namespace Gap

def addBlank (gap : Gap) (blank : Char) : Gap :=
  if gap.broken then gap else { gap with blanks := gap.blanks.concat blank }

def addBreak (gap : Gap) (character : Char) : Gap :=
  if gap.broken then { gap with more := gap.more.concat (keptBreak character) }
  else { broken := true, first := [keptBreak character] }

/-- One line break is a blank, and of several the first does not count. -/
def text (gap : Gap) : List Char :=
  if !gap.broken then gap.blanks
  else if gap.first ≠ ['\n'] then gap.first ++ gap.more
  else if gap.more.isEmpty then [' '] else gap.more

/-- Reads a gap; after a line break there is no tab before the column
`least`. -/
def read (least : Nat) : Nat → Gap → Cursor → Option (Gap × Cursor)
  | 0, gap, cursor => some (gap, cursor)
  | fuel + 1, gap, cursor =>
      match cursor.rest with
      | [] => some (gap, cursor)
      | next :: _ =>
          if isBlank next then
            if gap.broken && decide (cursor.column < least) && next = '\t' then
              none
            else read least fuel (gap.addBlank next) cursor.skip
          else if isBreak next then
            read least fuel (gap.addBreak next) cursor.skipLine
          else some (gap, cursor)

end Gap

end GenKill.Settings.Yaml
