import GenKill.Text.Quoted

/-!
# Log entries

An entry is written as one line of JSON, or as one colored line for a console.
-/

namespace GenKill

/-- A point in time, to the second, as it is shown in a time zone. -/
structure Moment where
  year : Nat
  month : Nat
  day : Nat
  hour : Nat
  minute : Nat
  second : Nat
  /-- The minutes that the zone is ahead of universal time. -/
  offset : Int := 0

namespace Moment

/-- The date of a day, counted from the start of 1970.  Years are counted from
March here, so that the leap day is their last. -/
def dateOfDay (day : Nat) : Nat × Nat × Nat :=
  let day := day + 719468
  let era := day / 146097
  let dayOfEra := day % 146097
  let yearOfEra :=
    (dayOfEra - dayOfEra / 1460 + dayOfEra / 36524 - dayOfEra / 146096) / 365
  let dayOfYear :=
    dayOfEra - (365 * yearOfEra + yearOfEra / 4 - yearOfEra / 100)
  let month := (5 * dayOfYear + 2) / 153
  let year := era * 400 + yearOfEra
  (if month < 10 then year else year + 1,
    if month < 10 then month + 3 else month - 9,
    dayOfYear - (153 * month + 2) / 5 + 1)

/-- A moment in universal time, counted in seconds from the start of 1970. -/
def ofSeconds (seconds : Nat) : Moment :=
  let (year, month, day) := dateOfDay (seconds / 86400)
  { year, month, day
    hour := seconds / 3600 % 24
    minute := seconds / 60 % 60
    second := seconds % 60 }

/-- A number of at least so many digits. -/
def padded (width number : Nat) : Text :=
  let digits := Text.ofNat number
  List.replicate (width - digits.length) (Text.byte '0') ++ digits

def zone (offset : Int) : Text :=
  if offset = 0 then "Z"
  else
    let sign : Text := if offset < 0 then "-" else "+"
    sign ++ padded 2 (offset.natAbs / 60) ++ ":" ++
      padded 2 (offset.natAbs % 60)

/-- The date and the time with its zone. -/
def stamp (moment : Moment) : Text :=
  padded 4 moment.year ++ "-" ++ padded 2 moment.month ++ "-" ++
    padded 2 moment.day ++ "T" ++ padded 2 moment.hour ++ ":" ++
    padded 2 moment.minute ++ ":" ++ padded 2 moment.second ++
    zone moment.offset

/-- The time on a clock with twelve hours. -/
def clock (moment : Moment) : Text :=
  let hour := if moment.hour % 12 = 0 then 12 else moment.hour % 12
  let half : Text := if moment.hour < 12 then "AM" else "PM"
  Text.ofNat hour ++ ":" ++ padded 2 moment.minute ++ half

end Moment

namespace Log

inductive Level where
  | debug
  | info
  | warn

namespace Level

def rank : Level → Int
  | debug => 0
  | info => 1
  | warn => 2

def text : Level → Text
  | debug => "debug"
  | info => "info"
  | warn => "warn"

/-- The threshold that a number stands for: numbers wrap around at eight bits,
with a sign. -/
def threshold (code : Int) : Int := Int.bmod code 256

/-- Whether entries of a level are kept. -/
def passes (threshold : Int) (level : Level) : Bool :=
  decide (threshold ≤ level.rank)

end Level

inductive Value where
  | text (text : Text)
  | number (number : Nat)

structure Entry where
  level : Level
  fields : List (Text × Value)
  message : Text

/-! ### JSON -/

def escapeChar (character : Char) : Text :=
  match character with
  | '"' => "\\\""
  | '\\' => "\\\\"
  | '\x08' => "\\b"
  | '\x0c' => "\\f"
  | '\n' => "\\n"
  | '\r' => "\\r"
  | '\t' => "\\t"
  | _ =>
      if character.toNat < 0x20 ∨ character.toNat = 0x7f then
        "\\u" ++ Text.hex 4 character.toNat
      else Text.ofChars [character]

def escape : Glyph → Text
  | .char character => escapeChar character
  | .stray _ => "\\ufffd"

def jsonString (text : Text) : Text :=
  "\"" ++ text.glyphs.flatMap escape ++ "\""

def Value.json : Value → Text
  | .text value => jsonString value
  | .number value => Text.ofNat value

def jsonField (field : Text × Value) : Text :=
  jsonString field.1 ++ ":" ++ field.2.json

namespace Entry

/-- The entry as a line of JSON: its level, its fields in order, the time if it
is recorded, and the message. -/
def json (time : Option Moment) (entry : Entry) : Text :=
  let level : Text × Value := ("level", .text entry.level.text)
  let stamp : List (Text × Value) :=
    time.toList.map fun moment => ("time", .text moment.stamp)
  let message : Text × Value := ("message", .text entry.message)
  let fields := level :: entry.fields ++ stamp ++ [message]
  "\x7b" ++ Text.join "," (fields.map jsonField) ++ "\x7d\n"

end Entry

/-! ### Console lines -/

/-- A text in a color or a weight of the terminal. -/
def styled (style : Nat) (text : Text) : Text :=
  "\x1b[" ++ Text.ofNat style ++ "m" ++ text ++ "\x1b[0m"

/-- Texts of plain printable characters are shown as they are. -/
def isPlainByte (byte : UInt8) : Bool :=
  decide (0x20 < byte ∧ byte ≤ 0x7e) && byte ≠ Text.byte '\\' &&
    byte ≠ Text.byte '"'

def Value.shown : Value → Text
  | .text value =>
      let shown := Text.ofChars (Text.shown value)
      if shown.all isPlainByte then shown else shown.quote
  | .number value => Text.ofNat value

def Level.shown : Level → Text
  | .debug => "DBG"
  | .info => styled 32 "INF"
  | .warn => styled 33 "WRN"

def shownField (field : Text × Value) : Text :=
  styled 36 (field.1 ++ "=") ++ field.2.shown

namespace Entry

def shownMessage (entry : Entry) : Text :=
  match entry.level with
  | .debug => entry.message
  | _ => styled 1 entry.message

/-- The entry as a line for a console: the fields are in the order of their
names. -/
def console (time : Moment) (entry : Entry) : Text :=
  let fields :=
    entry.fields.mergeSort fun left right => !Text.before right.1 left.1
  Text.join " " (styled 90 time.clock :: entry.level.shown ::
    entry.shownMessage :: fields.map shownField) ++ "\n"

end Entry

end Log

end GenKill
