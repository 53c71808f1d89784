import GenKill.Settings.Value
import GenKill.Text.Glyph
import GenKill.Text.Quoted

/-!
# Settings in TOML

Tables, keys with points, strings of all four kinds, integers, floating-point
numbers, truth values, arrays and inline tables.  A name may be defined once
only.
-/

namespace GenKill.Settings.Toml

/-- Entries by name, in order of definition. -/
abbrev Entries := List (Text × Value)

/-! ### Tables -/

/-- Replaces the entry with a name, or adds it at the end. -/
def replace (name : Text) (value : Value) : Entries → Entries
  | [] => [(name, value)]
  | (other, old) :: rest =>
      if other = name then (name, value) :: rest
      else (other, old) :: replace name value rest

/-- Changes the entries of the table at a path; tables on the way are made if
there are none.  For an array of tables the last one counts. -/
def within (change : Entries → Option Entries) :
    List Text → Entries → Option Entries
  | [], entries => change entries
  | name :: path, entries =>
      match entries.lookup name with
      | none =>
          (within change path []).map fun inner =>
            replace name (.record inner) entries
      | some (.record inner) =>
          (within change path inner).map fun inner =>
            replace name (.record inner) entries
      | some (.list items) =>
          match items.getLast? with
          | some (.record inner) =>
              (within change path inner).map fun inner =>
                replace name (.list (items.dropLast ++ [.record inner])) entries
          | _ => none
      | some _ => none

/-- Defines a name that is not defined yet. -/
def define (name : Text) (value : Value) (entries : Entries) : Option Entries :=
  if (entries.lookup name).isSome then none
  else some (entries ++ [(name, value)])

/-- Defines the name at the end of a path. -/
def defineAt (path : List Text) (value : Value) (entries : Entries) :
    Option Entries :=
  match path.getLast? with
  | none => none
  | some name => within (define name value) path.dropLast entries

/-- Adds a table to the array at the end of a path. -/
def appendTable (path : List Text) (entries : Entries) : Option Entries :=
  match path.getLast? with
  | none => none
  | some name =>
      within (fun inner =>
        match inner.lookup name with
        | none => some (inner ++ [(name, .list [.record []])])
        | some (.list items) =>
            some (replace name (.list (items ++ [.record []])) inner)
        | some _ => none) path.dropLast entries

/-! ### Blanks -/

def isBlank (byte : UInt8) : Bool := byte = 32 || byte = 9

def skipBlanks (text : Text) : Text := text.dropWhile isBlank

/-- The text after a comment, which ends before its line does. -/
def skipComment : Text → Text
  | 35 :: rest => rest.dropWhile fun byte => byte ≠ 10
  | text => text

/-- Blanks, comments and line breaks. -/
def skipLines : Nat → Text → Text
  | 0, text => text
  | fuel + 1, text =>
      match skipComment (skipBlanks text) with
      | 10 :: rest => skipLines fuel rest
      | 13 :: 10 :: rest => skipLines fuel rest
      | rest => rest

/-- The rest of a line with nothing on it, and what follows. -/
def lineEnd? (text : Text) : Option Text :=
  match skipComment (skipBlanks text) with
  | [] => some []
  | 10 :: rest => some rest
  | 13 :: 10 :: rest => some rest
  | _ => none

/-! ### Strings -/

/-- A character by its number; the replacement character if there is no such
character. -/
def point? (count : Nat) (text : Text) : Option (Text × Text) :=
  let digits :=
    (text.take count).map fun byte => Quoted.hexValue? (Char.ofNat byte.toNat)
  match digits.mapM id with
  | none => none
  | some digits =>
      let point := digits.foldl (fun value digit => value * 16 + digit) 0
      let character := Char.ofNat (if point.isValidChar then point else 0xfffd)
      if digits.length = count then
        some (Text.ofChars [character], text.drop count)
      else none

/-- An escape after its backslash: the bytes it stands for, and the rest. -/
def escape? : Text → Option (Text × Text)
  | 98 :: rest => some ([8], rest)
  | 116 :: rest => some ([9], rest)
  | 110 :: rest => some ([10], rest)
  | 102 :: rest => some ([12], rest)
  | 114 :: rest => some ([13], rest)
  | 34 :: rest => some ([34], rest)
  | 47 :: rest => some ([47], rest)
  | 92 :: rest => some ([92], rest)
  | 117 :: rest => point? 4 rest
  | 85 :: rest => point? 8 rest
  | _ => none

/-- A string up to its closing mark.  Strings with escapes are `basic`; of them
only long ones, whose marks are three quotes, hold line breaks.  A backslash
before blanks and line breaks hides them. -/
def string? (mark : Text) (basic long : Bool) :
    Nat → Text → Option (Text × Text)
  | 0, _ => none
  | fuel + 1, text =>
      match text.dropStart? mark with
      | some rest => some ([], rest)
      | none =>
          match text, basic with
          | [], _ => none
          | 92 :: rest, true =>
              let shown :=
                rest.dropWhile fun byte =>
                  isBlank byte || byte = 10 || byte = 13
              if shown.length < rest.length then
                string? mark basic long fuel shown
              else match escape? rest with
                | some (bytes, rest) => more fuel bytes rest
                | none => none
          | head :: rest, _ =>
              let fits :=
                head = 9 || long && (head = 10 || head = 13) ||
                  decide (32 ≤ head)
              if basic && !fits then none else more fuel [head] rest
where
  more (fuel : Nat) (bytes rest : Text) : Option (Text × Text) :=
    (string? mark basic long fuel rest).map fun (text, rest) =>
      (bytes ++ text, rest)

/-- A long string does not begin with a line break. -/
def dropLineBreak : Text → Text
  | 10 :: rest => rest
  | 13 :: 10 :: rest => rest
  | text => text

/-- A quoted string of any kind, and the rest. -/
def quoted? (text : Text) : Option (Text × Text) :=
  match text with
  | 34 :: 34 :: 34 :: rest =>
      string? "\"\"\"" true true text.length (dropLineBreak rest)
  | 39 :: 39 :: 39 :: rest =>
      string? "'''" false true text.length (dropLineBreak rest)
  | 34 :: rest => string? "\"" true false text.length rest
  | 39 :: rest => string? "'" false false text.length rest
  | _ => none

/-! ### Keys -/

def isBare (byte : UInt8) : Bool :=
  (48 ≤ byte && byte ≤ 57) || (65 ≤ byte && byte ≤ 90) ||
    (97 ≤ byte && byte ≤ 122) || byte = 45 || byte = 95

def keyPart? (text : Text) : Option (Text × Text) :=
  match text with
  | 34 :: rest => string? "\"" true false text.length rest
  | 39 :: rest => string? "'" false false text.length rest
  | _ =>
      match text.takeWhile isBare with
      | [] => none
      | name => some (name, text.dropWhile isBare)

/-- The parts of a key, separated by points, and the rest. -/
def key? : Nat → Text → Option (List Text × Text)
  | 0, _ => none
  | fuel + 1, text =>
      match keyPart? (skipBlanks text) with
      | none => none
      | some (part, rest) =>
          match skipBlanks rest with
          | 46 :: rest =>
              (key? fuel rest).map fun (parts, rest) => (part :: parts, rest)
          | rest => some ([part], rest)

/-! ### Values -/

def isTokenByte (byte : UInt8) : Bool :=
  isBare byte || byte = 43 || byte = 46 || byte = 58

def isDigit (byte : UInt8) : Bool := 48 ≤ byte && byte ≤ 57

/-- The letters among the digits are small where there are underscores. -/
def isHexDigit (byte : UInt8) : Bool := isDigit byte || 97 ≤ byte && byte ≤ 102

/-- Every underscore stands between digits. -/
def underscoresFit (isDigit : UInt8 → Bool) : (afterDigit : Bool) → Text → Bool
  | _, [] => true
  | afterDigit, 95 :: rest =>
      afterDigit && rest.head?.any isDigit && underscoresFit isDigit false rest
  | _, byte :: rest => underscoresFit isDigit (isDigit byte) rest

/-- A whole number with a mark for its base. -/
def marked? (digits : Text) : Option Value :=
  match Integer.natural 0xffffffffffffffff digits with
  | .ok value => some (.whole value)
  | .error _ => none

/-- A whole number in decimal digits.  Only a sign makes it possible to start
with several zeros. -/
def decimal? (digits unsigned : Text) : Option Value :=
  let value : Nat :=
    unsigned.foldl (fun value byte => value * 10 + (byte.toNat - 48)) 0
  if 3 ≤ digits.length && digits.head? = some 48 then none
  else if digits.head? = some 45 then
    if value ≤ 0x8000000000000000 then some (.whole (-(value : Int))) else none
  else if value < (if digits = unsigned then 0x10000000000000000
      else 0x8000000000000000) then
    some (.whole value)
  else none

/-- A number with a point or an exponent; there are digits on both sides of a
point. -/
def fractional? (digits unsigned : Text) : Option Value :=
  let whole := unsigned.takeWhile isDigit
  let fits := match unsigned.drop whole.length with
    | 46 :: rest => !whole.isEmpty && rest.head?.any isDigit
    | 101 :: _ => !(Text.startsWith digits "0e" || whole.isEmpty)
    | 69 :: _ => !(Text.startsWith digits "0E" || whole.isEmpty)
    | _ => false
  if fits then (Number.doubleOfText? digits).map .number else none

def number? (token : Text) : Option Value :=
  let digits := token.filter fun byte => byte ≠ 95
  let unsigned := match digits with
    | 43 :: rest => rest
    | 45 :: rest => rest
    | _ => digits
  if !underscoresFit
      (if Text.startsWith digits "0x" then isHexDigit else isDigit)
      false token then none
  else if digits.take 2 ∈ (["0x", "0o", "0b"] : List Text) then marked? digits
  else if !unsigned.isEmpty && unsigned.all isDigit then
    decimal? digits unsigned
  else fractional? digits unsigned

/-- A value without quotes or brackets. -/
def token? (token : Text) : Option Value :=
  if token = "true" then some (.truth true)
  else if token = "false" then some (.truth false)
  else if token ∈ (["inf", "+inf"] : List Text) then some (.infinite false)
  else if token = "-inf" then some (.infinite true)
  else if token ∈ (["nan", "+nan", "-nan"] : List Text) then some .undefined
  else number? token

/-- The items of an array after its opening bracket. -/
def items (value : Text → Option (Value × Text)) :
    Nat → Text → Option (List Value × Text)
  | 0, _ => none
  | fuel + 1, text =>
      match skipLines text.length text with
      | 93 :: rest => some ([], rest)
      | text =>
          match value text with
          | none => none
          | some (first, rest) =>
              match skipLines rest.length rest with
              | 44 :: rest =>
                  (items value fuel rest).map fun (more, rest) =>
                    (first :: more, rest)
              | 93 :: rest => some ([first], rest)
              | _ => none

/-- The entries of an inline table after its opening brace. -/
def inlineEntries (value : Text → Option (Value × Text)) :
    Nat → Entries → Text → Option (Entries × Text)
  | 0, _, _ => none
  | fuel + 1, done, text =>
      match skipBlanks text with
      | 125 :: rest => some (done, rest)
      | text =>
          match key? text.length text with
          | some (path, 61 :: rest) =>
              match value (skipBlanks rest) with
              | none => none
              | some (found, rest) =>
                  match defineAt path found done, skipBlanks rest with
                  | some done, 44 :: rest => inlineEntries value fuel done rest
                  | some done, 125 :: rest => some (done, rest)
                  | _, _ => none
          | _ => none

/-- A value of at most so many levels, and the rest. -/
def value : Nat → Text → Option (Value × Text)
  | 0, _ => none
  | depth + 1, text =>
      match text with
      | 91 :: rest =>
          (items (value depth) (rest.length + 1) rest).map fun (items, rest) =>
            (.list items, rest)
      | 123 :: rest =>
          (inlineEntries (value depth) (rest.length + 1) [] rest).map
            fun (entries, rest) => (.record entries, rest)
      | _ =>
          match quoted? text with
          | some (found, rest) => some (.text found, rest)
          | none =>
              (token? (text.takeWhile isTokenByte)).map fun found =>
                (found, text.dropWhile isTokenByte)

/-! ### Documents -/

/-- What has been read: everything so far, the path of the current table, and
the paths of all tables that were opened. -/
structure Document where
  entries : Entries := []
  table : List Text := []
  tables : List (List Text) := []

/-- Opens a table; it may have been made on the way to another one, but not
opened before. -/
def Document.openTable (document : Document) (path : List Text) :
    Option Document :=
  if path ∈ document.tables then none
  else (within some path document.entries).map fun entries =>
    { entries, table := path, tables := path :: document.tables }

def Document.openArray (document : Document) (path : List Text) :
    Option Document :=
  (appendTable path document.entries).map fun entries =>
    { entries, table := path
      tables := document.tables.filter fun table => !path.isPrefixOf table }

/-- Defines a name in the current table. -/
def Document.define (document : Document) (path : List Text) (value : Value) :
    Option Document :=
  (within (defineAt path value) document.table document.entries).map
    fun entries => { document with entries }

/-- Reads one statement. -/
def statement (document : Document) (text : Text) : Option (Document × Text) :=
  match text with
  | 91 :: 91 :: rest =>
      match key? rest.length rest with
      | some (path, 93 :: 93 :: rest) =>
          (document.openArray path).map fun document => (document, rest)
      | _ => none
  | 91 :: rest =>
      match key? rest.length rest with
      | some (path, 93 :: rest) =>
          (document.openTable path).map fun document => (document, rest)
      | _ => none
  | _ =>
      match key? text.length text with
      | some (path, 61 :: rest) =>
          match value (rest.length + 1) (skipBlanks rest) with
          | some (found, rest) =>
              (document.define path found).map fun document => (document, rest)
          | none => none
      | _ => none

def statements : Nat → Document → Text → Option Document
  | 0, document, _ => some document
  | fuel + 1, document, text =>
      match skipLines text.length text with
      | [] => some document
      | text =>
          match statement document text with
          | none => none
          | some (document, rest) =>
              (lineEnd? rest).bind (statements fuel document)

/-- The record that a text holds.  A mark of the encoding may come first, and a
byte that belongs to no character reads as the replacement character. -/
def read (source : Text) : Option Value :=
  let body : Text := match source with
    | 0xef :: 0xbb :: 0xbf :: rest => rest
    | _ => source
  let source := Text.ofChars body.shown
  (statements (source.length + 1) {} source).map fun document =>
    .record document.entries

end GenKill.Settings.Toml
