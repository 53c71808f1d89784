import GenKill.Settings.Yaml.Scalar

/-!
# Tokens of YAML text

A key is only known as one when its colon is found, on the same line.  The
scanner therefore remembers where a key may have started, and puts the marks of
the key, and of a mapping that starts with it, in front of that token
afterwards.

The tokens of a text that cannot be scanned to its end stop with a mark, so that
what comes before can still be read.
-/

namespace GenKill.Settings.Yaml

inductive Token where
  | version (major minor : Nat)
  | handle (name lead : Text)
  | documentStart
  | documentEnd
  | sequenceStart
  | mappingStart
  | blockEnd
  | flowSequenceStart
  | flowSequenceEnd
  | flowMappingStart
  | flowMappingEnd
  | item
  | comma
  | key
  | value
  | alias (name : Text)
  | anchor (name : Text)
  | tag (handle rest : Text)
  | scalar (text : Text) (isPlain : Bool)
  | streamEnd
  | failure

/-- A token that may turn out to be a key.  One that starts a line of a mapping
has to. -/
structure Candidate where
  required : Bool
  number : Nat
  start : Cursor

structure Scanner where
  cursor : Cursor
  /-- One more than the indentation of the current block collection; zero
  outside of all. -/
  level : Nat := 0
  levels : List Nat := []
  /-- The possible keys: one for each open flow collection, and one outside of
  them. -/
  keys : List (Option Candidate) := [none]
  keyAllowed : Bool := true
  /-- The tokens in reverse. -/
  tokens : List Token := []
  count : Nat := 0

namespace Scanner

def inFlow (scanner : Scanner) : Bool := decide (1 < scanner.keys.length)

def emit (scanner : Scanner) (token : Token) : Scanner :=
  { scanner with tokens := token :: scanner.tokens, count := scanner.count + 1 }

/-- Puts a token in front of the one with a number. -/
def insert (scanner : Scanner) (number : Nat) (token : Token) : Scanner :=
  { scanner with
    tokens := scanner.tokens.insertIdx (scanner.count - number) token
    count := scanner.count + 1 }

/-- Opens a block collection at a column that is further in. -/
def indent (scanner : Scanner) (column number : Nat) (token : Token) :
    Scanner :=
  if scanner.inFlow || decide (column < scanner.level) then scanner
  else
    { scanner with
      level := column + 1
      levels := scanner.level :: scanner.levels }.insert number token

/-- Closes the block collections that are further in than `level`. -/
def dedent (level : Nat) : List Nat → Scanner → Scanner
  | [], scanner => scanner
  | outer :: levels, scanner =>
      if scanner.inFlow || decide (scanner.level ≤ level) then scanner
      else dedent level levels
        ({ scanner with level := outer, levels }.emit .blockEnd)

def unindent (scanner : Scanner) (level : Nat) : Scanner :=
  dedent level scanner.levels scanner

/-! ### Possible keys -/

/-- A key ends on its line, and within 1024 characters. -/
def isStale (scanner : Scanner) (candidate : Candidate) : Bool :=
  decide (candidate.start.line < scanner.cursor.line) ||
    decide (candidate.start.index + 1024 < scanner.cursor.index)

def setKey (scanner : Scanner) (candidate : Option Candidate) : Scanner :=
  { scanner with keys := candidate :: scanner.keys.drop 1 }

def currentKey (scanner : Scanner) : Option Candidate := scanner.keys.head?.join

/-- Gives up a possible key, unless it has to be one. -/
def dropKey (scanner : Scanner) : Option Scanner :=
  match scanner.currentKey with
  | some candidate =>
      if candidate.required then none else some (scanner.setKey none)
  | none => some scanner

/-- The next token may be a key. -/
def saveKey (scanner : Scanner) : Option Scanner :=
  if scanner.keyAllowed then
    scanner.dropKey.map fun scanner => scanner.setKey (some
      { required :=
          !scanner.inFlow && decide (scanner.level = scanner.cursor.column + 1)
        number := scanner.count
        start := scanner.cursor })
  else some scanner

/-! ### Tokens -/

/-- Blanks, comments and line breaks before the next token.  A tab is a blank
only where no key can start. -/
def toNext : Nat → Scanner → Scanner
  | 0, scanner => scanner
  | fuel + 1, scanner =>
      let cursor := scanner.cursor
      let cursor :=
        if cursor.column = 0 ∧ cursor.rest.head? = some '\ufeff' then
          cursor.skip
        else cursor
      let tabs := scanner.inFlow || !scanner.keyAllowed
      let cursor :=
        (cursor.skipWhile fun next =>
          next = ' ' || tabs && next = '\t').skipComment
      if cursor.rest.isEmpty || !cursor.atLineEnd then { scanner with cursor }
      else
        toNext fuel
          { scanner with
            cursor := cursor.skipLine
            keyAllowed := scanner.keyAllowed || !scanner.inFlow }

/-- Moves over characters and emits their token. -/
def take (scanner : Scanner) (count : Nat) (token : Token) : Scanner :=
  { scanner with cursor := scanner.cursor.skip count }.emit token

/-- A mark between documents closes everything. -/
def documentMark (scanner : Scanner) (token : Token) : Option Scanner :=
  (scanner.unindent 0).dropKey.map fun scanner =>
    { scanner with keyAllowed := false }.take 3 token

def flowStart (scanner : Scanner) (token : Token) : Option Scanner :=
  scanner.saveKey.map fun scanner =>
    { scanner with
      keys := none :: scanner.keys, keyAllowed := true }.take 1 token

def flowEnd (scanner : Scanner) (token : Token) : Option Scanner :=
  scanner.dropKey.map fun scanner =>
    let keys := if scanner.inFlow then scanner.keys.drop 1 else scanner.keys
    { scanner with keys, keyAllowed := false }.take 1 token

def comma (scanner : Scanner) : Option Scanner :=
  scanner.dropKey.map fun scanner =>
    { scanner with keyAllowed := true }.take 1 .comma

/-- A mark that opens a block collection where it stands. -/
def blockMark (scanner : Scanner) (opening token : Token) (keyAllowed : Bool) :
    Option Scanner :=
  if !scanner.inFlow && !scanner.keyAllowed then none
  else
    (scanner.indent scanner.cursor.column scanner.count opening).dropKey.map
      fun scanner => { scanner with keyAllowed }.take 1 token

/-- The colon after a key. -/
def valueMark (scanner : Scanner) : Option Scanner :=
  match scanner.currentKey with
  | some candidate =>
      if scanner.isStale candidate then
        if candidate.required then none else complex (scanner.setKey none)
      else
        let scanner := scanner.insert candidate.number .key
        let scanner :=
          scanner.indent candidate.start.column candidate.number .mappingStart
        some ({ scanner.setKey none with keyAllowed := false }.take 1 .value)
  | none => complex scanner
where
  complex (scanner : Scanner) : Option Scanner :=
    if scanner.inFlow then
      some ({ scanner with keyAllowed := false }.take 1 .value)
    else if !scanner.keyAllowed then none
    else
      let scanner :=
        scanner.indent scanner.cursor.column scanner.count .mappingStart
      some ({ scanner with keyAllowed := true }.take 1 .value)

/-- A name after its mark, which only some characters can follow. -/
def name (scanner : Scanner) (token : Text → Token) : Option Scanner :=
  match scanner.saveKey with
  | none => none
  | some scanner =>
      let name := scanner.cursor.rest.tail.takeWhile isNameChar
      let rest := scanner.cursor.rest.tail.drop name.length
      let fits := endsWord rest ||
        rest.head?.any ['?', ':', ',', ']', '\x7d', '%', '@', '\x60'].contains
      if name.isEmpty || !fits then none
      else some ({ scanner with keyAllowed := false }.take (name.length + 1)
        (token (Text.ofChars name)))

/-! ### Tags and directives -/

def isAddressChar (character : Char) : Bool :=
  isNameChar character || ";/?:@&=+$.,!~*'()[]".toList.contains character

/-- The characters of an address, in which bytes may be written by two digits
after `%`. -/
def address : Nat → List Char → Option (Text × List Char)
  | 0, rest => some ([], rest)
  | fuel + 1, rest =>
      match rest with
      | '%' :: high :: low :: rest =>
          match Quoted.hexValue? high, Quoted.hexValue? low with
          | some high, some low =>
              (address fuel rest).map fun (bytes, rest) =>
                ((high * 16 + low).toUInt8 :: bytes, rest)
          | _, _ => none
      | next :: rest =>
          if isAddressChar next then
            (address fuel rest).map fun (bytes, rest) =>
              (Text.ofChars [next] ++ bytes, rest)
          else if next = '%' then none
          else some ([], next :: rest)
      | [] => some ([], [])

/-- A handle: `!`, or a name between two of them.  The flag says that it has
both. -/
def handle? : List Char → Option (List Char × Bool × List Char)
  | '!' :: rest =>
      let name := rest.takeWhile isNameChar
      match rest.drop name.length with
      | '!' :: rest => some ('!' :: name ++ ['!'], true, rest)
      | rest => some ('!' :: name, false, rest)
  | _ => none

/-- The tag at the start of a text: its handle, which may be empty, and the rest
of it. -/
def tag? (text : List Char) : Option (Text × Text × List Char) :=
  match text with
  | '!' :: '<' :: rest =>
      match address rest.length rest with
      | some (bytes, '>' :: rest) =>
          if bytes.isEmpty then none else some ([], bytes, rest)
      | _ => none
  | _ =>
      match handle? text with
      | none => none
      | some (handle, true, rest) =>
          match address rest.length rest with
          | some (bytes, rest) =>
              if bytes.isEmpty then none
              else some (Text.ofChars handle, bytes, rest)
          | none => none
      | some (handle, false, rest) =>
          (address rest.length rest).map fun (bytes, rest) =>
            let suffix := Text.ofChars (handle.drop 1) ++ bytes
            if suffix.isEmpty then ([], "!", rest) else ("!", suffix, rest)

def tag (scanner : Scanner) : Option Scanner :=
  match scanner.saveKey, tag? scanner.cursor.rest with
  | some scanner, some (handle, suffix, rest) =>
      if !endsWord rest then none
      else
        let count := scanner.cursor.rest.length - rest.length
        some ({ scanner with keyAllowed := false }.take count
          (.tag handle suffix))
  | _, _ => none

/-- A number of at most nine digits. -/
def versionNumber? (text : List Char) : Option (Nat × List Char) :=
  let digits := text.takeWhile Char.isDigit
  if digits.isEmpty || decide (9 < digits.length) then none
  else
    some (digits.foldl (fun value digit => value * 10 + (digit.toNat - 48)) 0,
      text.drop digits.length)

/-- What a directive says, and the rest of its line. -/
def directive? (text : List Char) : Option (Token × List Char) :=
  let name := text.takeWhile isNameChar
  let rest := text.drop name.length
  let body := rest.dropWhile isBlank
  if !endsWord rest then none
  else if name = ['Y', 'A', 'M', 'L'] then
    match versionNumber? body with
    | some (major, '.' :: rest) =>
        (versionNumber? rest).map fun (minor, rest) =>
          (.version major minor, rest)
    | _ => none
  else if name = ['T', 'A', 'G'] then
    match handle? body with
    | none => none
    | some (handle, closed, rest) =>
        if (!closed && handle ≠ ['!']) || !rest.head?.any isBlank then none
        else
          let rest := rest.dropWhile isBlank
          match address rest.length rest with
          | some (bytes, rest) =>
              if bytes.isEmpty || !endsWord rest then none
              else some (.handle (Text.ofChars handle) bytes, rest)
          | none => none
  else none

def directive (scanner : Scanner) : Option Scanner :=
  match (scanner.unindent 0).dropKey, directive? scanner.cursor.rest.tail with
  | some scanner, some (token, rest) =>
      let cursor :=
        scanner.cursor.skip (scanner.cursor.rest.length - rest.length)
      let cursor := (cursor.skipWhile isBlank).skipComment
      if !cursor.atLineEnd then none
      else
        some ({ scanner with
          cursor := cursor.skipLineEnd, keyAllowed := false }.emit token)
  | _, _ => none

/-! ### Scalars -/

def plainScalar (scanner : Scanner) : Option Scanner :=
  match scanner.saveKey with
  | none => none
  | some scanner =>
      let cursor := scanner.cursor
      match plain scanner.inFlow scanner.level (cursor.rest.length + 1) []
        cursor with
      | none => none
      | some (text, broken, cursor) =>
          some ({ scanner with cursor, keyAllowed := broken }.emit
            (.scalar (Text.ofChars text) true))

def quotedScalar (scanner : Scanner) (quote : Char) : Option Scanner :=
  match scanner.saveKey with
  | none => none
  | some scanner =>
      let cursor := scanner.cursor.skip
      (quoted quote (cursor.rest.length + 1) [] cursor).map
        fun (text, cursor) =>
          { scanner with cursor, keyAllowed := false }.emit
            (.scalar (Text.ofChars text) false)

def block (scanner : Scanner) (folded : Bool) : Option Scanner :=
  match scanner.dropKey with
  | none => none
  | some scanner =>
      (blockScalar folded scanner.level scanner.cursor.skip).map
        fun (text, cursor) =>
          { scanner with cursor, keyAllowed := true }.emit
            (.scalar (Text.ofChars text) false)

/-! ### The whole text -/

/-- Characters that no plain scalar starts with. -/
def reserved : List Char :=
  ['-', '?', ':', ',', '[', ']', '\x7b', '\x7d', '#', '&', '*', '!', '|', '>',
   '\'', '"', '%', '@', '\x60']

/-- A plain scalar may start with a mark that does not stand alone. -/
def startsPlain (inFlow : Bool) : List Char → Bool
  | [] => false
  | next :: rest =>
      !(isBlank next || isBreak next || reserved.contains next) ||
        next = '-' && !rest.head?.any isBlank ||
        !inFlow && (next = '?' || next = ':') && !endsWord rest

/-- Reads a token that is not the last. -/
def token (scanner : Scanner) (next : Char) (rest : List Char) :
    Option Scanner :=
  let alone := endsWord rest
  if next = '%' ∧ scanner.cursor.column = 0 then scanner.directive
  else if scanner.cursor.atMark '-' then scanner.documentMark .documentStart
  else if scanner.cursor.atMark '.' then scanner.documentMark .documentEnd
  else if next = '[' then scanner.flowStart .flowSequenceStart
  else if next = '\x7b' then scanner.flowStart .flowMappingStart
  else if next = ']' then scanner.flowEnd .flowSequenceEnd
  else if next = '\x7d' then scanner.flowEnd .flowMappingEnd
  else if next = ',' then scanner.comma
  else if next = '-' ∧ alone then scanner.blockMark .sequenceStart .item true
  else if next = '?' ∧ (scanner.inFlow ∨ alone) then
    scanner.blockMark .mappingStart .key !scanner.inFlow
  else if next = ':' ∧ (scanner.inFlow ∨ alone) then scanner.valueMark
  else if next = '*' then scanner.name .alias
  else if next = '&' then scanner.name .anchor
  else if next = '!' then scanner.tag
  else if next = '|' ∧ !scanner.inFlow then scanner.block false
  else if next = '>' ∧ !scanner.inFlow then scanner.block true
  else if next = '\'' ∨ next = '"' then scanner.quotedScalar next
  else if startsPlain scanner.inFlow (next :: rest) then scanner.plainScalar
  else none

/-- The tokens before a place that cannot be scanned.  A possible key before it
is not known. -/
def stopped (scanner : Scanner) : List Token :=
  let isOpen (candidate : Candidate) :=
    candidate.required || !scanner.isStale candidate
  let numbers := (scanner.keys.filterMap id).filterMap fun candidate =>
    if isOpen candidate then some candidate.number else none
  let known := numbers.foldl min scanner.count
  (scanner.tokens.reverse.take known).concat .failure

def run : Nat → Scanner → List Token
  | 0, scanner => scanner.stopped
  | fuel + 1, scanner =>
      let next := toNext (scanner.cursor.rest.length + 1) scanner
      let next := next.unindent (next.cursor.column + 1)
      match next.cursor.rest with
      | [] =>
          match (next.unindent 0).dropKey with
          | some next => (next.emit .streamEnd).tokens.reverse
          | none => scanner.stopped
      | first :: rest =>
          match next.token first rest with
          | some next => run fuel next
          | none => scanner.stopped

end Scanner

def tokens (text : List Char) : List Token :=
  Scanner.run (text.length + 2) { cursor := { rest := text } }

end GenKill.Settings.Yaml
