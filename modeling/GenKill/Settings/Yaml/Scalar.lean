import GenKill.Settings.Yaml.Cursor
import GenKill.Text.Quoted

/-!
# Scalars of YAML text

Plain scalars, scalars in quotes, and block scalars.  `level` is the least
column of a line that continues a plain scalar: one more than the indentation of
the collection around it.
-/

namespace GenKill.Settings.Yaml

/-! ### Plain scalars -/

/-- What comes next does not belong to a plain scalar. -/
def endsPlain (inFlow : Bool) : List Char → Bool
  | [] => true
  | ':' :: rest => endsWord rest
  | next :: _ =>
      isBlank next || isBreak next ||
        inFlow && [',', '?', '[', ']', '\x7b', '\x7d'].contains next

/-- The characters up to the end of a word, in reverse, in front of those read
before. -/
def plainWord (inFlow : Bool) : Nat → List Char → Cursor → List Char × Cursor
  | 0, done, cursor => (done, cursor)
  | fuel + 1, done, cursor =>
      match cursor.rest with
      | [] => (done, cursor)
      | next :: _ =>
          if endsPlain inFlow cursor.rest then (done, cursor)
          else plainWord inFlow fuel (next :: done) cursor.skip

/-- A plain scalar, whether a line ends after it, and the place behind. -/
def plain (inFlow : Bool) (level : Nat) : Nat → List Char → Cursor →
    Option (List Char × Bool × Cursor)
  | 0, _, _ => none
  | fuel + 1, done, cursor =>
      let (done, cursor) := plainWord inFlow cursor.rest.length done cursor
      if cursor.rest.isEmpty || !endsWord cursor.rest then
        some (done.reverse, false, cursor)
      else
        match Gap.read level cursor.rest.length {} cursor with
        | none => none
        | some (gap, next) =>
            let ends :=
              !inFlow && decide (next.column < level) || next.atDocumentMark ||
                next.rest.head? = some '#' || endsPlain inFlow next.rest
            if ends then some (done.reverse, gap.broken, next)
            else plain inFlow level fuel (gap.text.reverse ++ done) next

/-! ### Quoted scalars -/

def simpleEscapes : List (Char × Nat) :=
  [('0', 0), ('a', 7), ('b', 8), ('t', 9), ('\t', 9), ('n', 10), ('v', 11),
   ('f', 12), ('r', 13), ('e', 27), (' ', 32), ('"', 34), ('\'', 39),
   ('\\', 92), ('N', 0x85), ('_', 0xa0), ('L', 0x2028), ('P', 0x2029)]

/-- The number of digits after the mark of an escape. -/
def escapeDigits : List (Char × Nat) := [('x', 2), ('u', 4), ('U', 8)]

/-- The character that an escape stands for, and the number of characters after
the backslash. -/
def escaped? : List Char → Option (Char × Nat)
  | [] => none
  | mark :: rest =>
      match simpleEscapes.lookup mark, escapeDigits.lookup mark with
      | some point, _ => some (Char.ofNat point, 1)
      | none, none => none
      | none, some count =>
          match (rest.take count).mapM Quoted.hexValue? with
          | none => none
          | some digits =>
              let point :=
                digits.foldl (fun value digit => value * 16 + digit) 0
              if digits.length = count ∧ point.isValidChar then
                some (Char.ofNat point, count + 1)
              else none

/-- A word in quotes, in reverse; the flag says that it ends with a line break
that is escaped. -/
def quotedWord (quote : Char) :
    Nat → List Char → Cursor → Option (List Char × Bool × Cursor)
  | 0, done, cursor => some (done, false, cursor)
  | fuel + 1, done, cursor =>
      match cursor.rest with
      | [] => some (done, false, cursor)
      | next :: rest =>
          if endsWord cursor.rest then some (done, false, cursor)
          else if next = quote then
            if quote = '\'' ∧ rest.head? = some quote then
              quotedWord quote fuel (quote :: done) (cursor.skip 2)
            else some (done, false, cursor)
          else if next = '\\' ∧ quote = '"' then
            if rest.head?.any isBreak then
              some (done, true, cursor.skip.skipLine)
            else match escaped? rest with
              | none => none
              | some (character, count) =>
                  quotedWord quote fuel (character :: done)
                    (cursor.skip (count + 1))
          else quotedWord quote fuel (next :: done) cursor.skip

/-- A scalar after its opening quote. -/
def quoted (quote : Char) :
    Nat → List Char → Cursor → Option (List Char × Cursor)
  | 0, _, _ => none
  | fuel + 1, done, cursor =>
      if cursor.rest.isEmpty || cursor.atDocumentMark then none
      else match quotedWord quote cursor.rest.length done cursor with
        | none => none
        | some (done, broken, cursor) =>
            if cursor.rest.head? = some quote then
              some (done.reverse, cursor.skip)
            else match Gap.read 0 cursor.rest.length { broken } cursor with
              | none => none
              | some (gap, cursor) =>
                  quoted quote fuel (gap.text.reverse ++ done) cursor

/-! ### Block scalars -/

/-- What happens to the line breaks at the end of a block scalar. -/
inductive Chomping where
  | strip
  | clip
  | keep

/-- The marks after the first character of a block scalar: the line breaks to
keep, the indentation if it is given, and the place behind. -/
def blockHeader (cursor : Cursor) : Option (Chomping × Nat × Cursor) :=
  let chomping? : List Char → Option Chomping
    | '+' :: _ => some .keep
    | '-' :: _ => some .strip
    | _ => none
  let increment : List Char → Nat
    | digit :: _ => if digit.isDigit then digit.toNat - 48 else 0
    | [] => 0
  let isZero : List Char → Bool := fun rest => rest.head? = some '0'
  match chomping? cursor.rest with
  | some chomping =>
      let cursor := cursor.skip
      if isZero cursor.rest then none
      else match increment cursor.rest with
        | 0 => some (chomping, 0, cursor)
        | count => some (chomping, count, cursor.skip)
  | none =>
      if isZero cursor.rest then none
      else match increment cursor.rest with
        | 0 => some (.clip, 0, cursor)
        | count =>
            let cursor := cursor.skip
            match chomping? cursor.rest with
            | some chomping => some (chomping, count, cursor.skip)
            | none => some (.clip, count, cursor)

/-- The empty lines before a line of a block scalar: the indentation, which the
first line that is not empty decides unless it is known (then it is not zero),
the line breaks, and the place behind. -/
def blockBreaks (level : Nat) :
    Nat → (indent widest : Nat) → List Char → Cursor →
      Option (Nat × List Char × Cursor)
  | 0, _, _, _, _ => none
  | fuel + 1, indent, widest, breaks, cursor =>
      let blanks := (cursor.rest.takeWhile (· = ' ')).length
      let cursor :=
        cursor.skip
          (if indent = 0 then blanks else min blanks (indent - cursor.column))
      let widest := max widest cursor.column
      match cursor.rest with
      | [] =>
          some (if indent = 0 then max 1 (max level widest) else indent, breaks,
            cursor)
      | next :: _ =>
          if (indent = 0 || cursor.column < indent) && next = '\t' then none
          else if isBreak next then
            blockBreaks level fuel indent widest
              (breaks.concat (keptBreak next)) cursor.skipLine
          else some (if indent = 0 then max 1 (max level widest) else indent,
            breaks, cursor)

/-- The lines of a block scalar, in reverse, with the last line break and those
after it. -/
structure BlockLines where
  done : List Char := []
  /-- The last line started with a blank, so it is not folded. -/
  blank : Bool := false
  last : List Char := []
  more : List Char

/-- Reads the lines of a block scalar. -/
def blockLines (folded : Bool) (level indent : Nat) :
    Nat → BlockLines → Cursor → Option (BlockLines × Cursor)
  | 0, _, _ => none
  | fuel + 1, lines, cursor =>
      if cursor.rest.isEmpty || cursor.column ≠ indent then some (lines, cursor)
      else
        let blank := cursor.rest.head?.any isBlank
        let joint :=
          if folded && !lines.blank && !blank && lines.last = ['\n'] then
            if lines.more.isEmpty then [' '] else []
          else lines.last
        let line := cursor.rest.takeWhile fun character => !isBreak character
        let done := line.reverse ++ (joint ++ lines.more).reverse ++ lines.done
        let cursor := cursor.skip line.length
        let last := (cursor.rest.head?.map keptBreak).toList
        match blockBreaks level (cursor.rest.length + 1) indent 0 []
          cursor.skipLineEnd with
        | none => none
        | some (_, more, cursor) =>
            blockLines folded level indent fuel { done, blank, last, more }
              cursor

/-- A block scalar after its first character. -/
def blockScalar (folded : Bool) (level : Nat) (cursor : Cursor) :
    Option (List Char × Cursor) :=
  match blockHeader cursor with
  | none => none
  | some (chomping, increment, cursor) =>
      let cursor := (cursor.skipWhile isBlank).skipComment
      if !cursor.atLineEnd then none
      else
        let cursor := cursor.skipLineEnd
        let indent := if increment = 0 then 0 else level - 1 + increment
        match blockBreaks level (cursor.rest.length + 1) indent 0 [] cursor with
        | none => none
        | some (indent, more, cursor) =>
            match blockLines folded level indent (cursor.rest.length + 1)
              { more } cursor with
            | none => none
            | some (lines, cursor) =>
                let tail := match chomping with
                  | .strip => []
                  | .clip => lines.last
                  | .keep => lines.last ++ lines.more
                some (lines.done.reverse ++ tail, cursor)

end GenKill.Settings.Yaml
