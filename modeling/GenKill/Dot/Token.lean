import GenKill.Text.Glyph

/-!
# Tokens of DOT text

The text is read one character at a time; what has been read of the current
token is a state of the scanner.  A character that cannot belong to the current
token ends it, so a token is always as long as it can be.  Comments and blanks
give no token.
-/

namespace GenKill.Dot

inductive Token where
  | leftBrace
  | rightBrace
  | leftBracket
  | rightBracket
  | equals
  | semicolon
  | comma
  | colon
  | arrow
  | dashes
  | strict
  | graph
  | digraph
  | subgraph
  | node
  | edge
  /-- An identifier as it stands in the text, with its quotes if it has them. -/
  | id (text : Text)
  deriving DecidableEq

/-- The accepted spellings of the keywords; in other spellings they are
identifiers. -/
def keywords : List (Text × Token) :=
  [("node", .node), ("Node", .node), ("NODE", .node), ("edge", .edge),
   ("Edge", .edge), ("EDGE", .edge), ("graph", .graph), ("Graph", .graph),
   ("GRAPH", .graph), ("digraph", .digraph), ("Digraph", .digraph),
   ("diGraph", .digraph), ("DiGraph", .digraph), ("DIGRAPH", .digraph),
   ("subgraph", .subgraph), ("Subgraph", .subgraph), ("subGraph", .subgraph),
   ("SubGraph", .subgraph), ("SUBGRAPH", .subgraph), ("strict", .strict),
   ("Strict", .strict), ("STRICT", .strict)]

def Token.ofWord (word : Text) : Token :=
  (keywords.lookup word).getD (.id word)

/-- What has been read of the current token, last character first. -/
inductive Scanning where
  | between
  | word (read : List Char)
  | sign
  | point (read : List Char)
  | integer (read : List Char)
  | fraction (read : List Char)
  | quoted (read : List Char)
  | escaped (read : List Char)
  | markup (nested : Bool) (read : List Char)
  | slash
  | lineComment
  | blockComment
  | blockStar

namespace Scanning

/-- The replacement character, which bytes that are not UTF-8 also read as. -/
def replacement : Char := Char.ofNat 0xfffd

def isDigit (character : Char) : Bool :=
  decide ('0' ≤ character ∧ character ≤ '9')

def isLetter (character : Char) : Bool :=
  decide ('a' ≤ character ∧ character ≤ 'z' ∨
    'A' ≤ character ∧ character ≤ 'Z' ∨
    character = '_' ∨ 0x80 ≤ character.toNat ∧ character ≠ replacement)

/-- The characters that quoted and marked-up identifiers may hold. -/
def isContent (character : Char) : Bool :=
  decide (character.toNat ≠ 0 ∧ character ≠ replacement)

def isBlank (character : Char) : Bool :=
  decide (character = ' ' ∨ character = '\t' ∨ character = '\r' ∨
    character = '\n')

/-- The identifier made of the characters read. -/
def idOf (read : List Char) : Token := .id (Text.ofChars read.reverse)

/-- The tokens completed when the current one ends here; none if it cannot
end. -/
def finish : Scanning → Option (List Token)
  | between => some []
  | word read => some [.ofWord (Text.ofChars read.reverse)]
  | integer read => some [idOf read]
  | fraction read => some [idOf read]
  | _ => none

/-- Reads the first character of a token. -/
def start (character : Char) : Option (List Token × Scanning) :=
  if isBlank character then some ([], between)
  else if isLetter character then some ([], word [character])
  else if isDigit character then some ([], integer [character])
  else match character with
    | '{' => some ([.leftBrace], between)
    | '}' => some ([.rightBrace], between)
    | '[' => some ([.leftBracket], between)
    | ']' => some ([.rightBracket], between)
    | '=' => some ([.equals], between)
    | ';' => some ([.semicolon], between)
    | ',' => some ([.comma], between)
    | ':' => some ([.colon], between)
    | '-' => some ([], sign)
    | '.' => some ([], point ['.'])
    | '"' => some ([], quoted ['"'])
    | '<' => some ([], markup false ['<'])
    | '/' => some ([], slash)
    | '#' => some ([], lineComment)
    | _ => none

/-- Ends the current token before a character, which then starts the next
one. -/
def restart (state : Scanning) (character : Char) :
    Option (List Token × Scanning) :=
  match state.finish, start character with
  | some tokens, some (more, next) => some (tokens ++ more, next)
  | _, _ => none

/-- Reads one character: the tokens it completes and the new state. -/
def step (state : Scanning) (character : Char) :
    Option (List Token × Scanning) :=
  match state with
  | between => start character
  | word read =>
      if isLetter character || isDigit character then
        some ([], word (character :: read))
      else restart state character
  | sign =>
      if character = '-' then some ([.dashes], between)
      else if character = '>' then some ([.arrow], between)
      else if character = '.' then some ([], point ['.', '-'])
      else if isDigit character then some ([], integer [character, '-'])
      else none
  | point read =>
      if isDigit character then some ([], fraction (character :: read))
      else none
  | integer read =>
      if isDigit character then some ([], integer (character :: read))
      else if character = '.' then some ([], fraction (character :: read))
      else restart state character
  | fraction read =>
      if isDigit character then some ([], fraction (character :: read))
      else restart state character
  | quoted read =>
      if character = '"' then some ([idOf (character :: read)], between)
      else if character = '\\' then some ([], escaped (character :: read))
      else if isContent character then some ([], quoted (character :: read))
      else none
  | escaped read =>
      if isContent character then some ([], quoted (character :: read))
      else none
  | markup nested read =>
      if character = '>' then
        if nested then some ([], markup false (character :: read))
        else some ([idOf (character :: read)], between)
      else if character = '<' then
        if nested then none else some ([], markup true (character :: read))
      else if isContent character then
        some ([], markup nested (character :: read))
      else none
  | slash =>
      if character = '/' then some ([], lineComment)
      else if character = '*' then some ([], blockComment)
      else none
  | lineComment => some ([], if character = '\n' then between else lineComment)
  | blockComment =>
      some ([], if character = '*' then blockStar else blockComment)
  | blockStar =>
      some ([], if character = '/' then between
        else if character = '*' then blockStar
        else blockComment)

/-- The tokens of the rest of a text; none if some character fits no token. -/
def run : Scanning → List Char → Option (List Token)
  | state, [] => state.finish
  | state, character :: rest =>
      match state.step character with
      | none => none
      | some (tokens, next) => (run next rest).map (tokens ++ ·)

end Scanning

def tokens? (source : Text) : Option (List Token) :=
  Scanning.between.run source.shown

end GenKill.Dot
