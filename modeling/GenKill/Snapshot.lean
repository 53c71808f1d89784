import GenKill.Text.Glyph

/-!
# Snapshots

The state of a stepped analysis after a pass, and its text as one line of JSON.
-/

namespace GenKill

structure Snapshot where
  /-- Passes since the last reset. -/
  pass : Nat
  /-- Whether the last pass changed an out set; true after a reset. -/
  changed : Bool
  /-- The out sets of the labeled nodes, by label. -/
  out : Table Text (List Text)

namespace Snapshot

/-- A character inside a JSON string.  The signs of markup are escaped, so that
the line can stand inside a page. -/
def escapeChar (character : Char) : Text :=
  match character with
  | '"' => "\\\""
  | '\\' => "\\\\"
  | '\n' => "\\n"
  | '\r' => "\\r"
  | '\t' => "\\t"
  | _ =>
      if character.toNat < 0x20 ∨ character = '<' ∨ character = '>' ∨
          character = '&' ∨ character.toNat = 0x2028 ∨
          character.toNat = 0x2029 then
        "\\u" ++ Text.hex 4 character.toNat
      else Text.ofChars [character]

def escape : Glyph → Text
  | .char character => escapeChar character
  | .stray _ => "\\ufffd"

def jsonString (text : Text) : Text :=
  "\"" ++ text.glyphs.flatMap escape ++ "\""

def jsonList (texts : List Text) : Text :=
  "[" ++ Text.join "," (texts.map jsonString) ++ "]"

/-- The out sets ordered by the text of their keys, closing quote included. -/
def jsonOut (out : Table Text (List Text)) : Text :=
  let entries :=
    out.entries.map fun (label, elements) =>
      (jsonString label, jsonList elements)
  let sorted := entries.mergeSort fun left right => !Text.before right.1 left.1
  "\x7b" ++
    Text.join "," (sorted.map fun (key, value) => key ++ ":" ++ value) ++ "\x7d"

def json (snapshot : Snapshot) : Text :=
  "\x7b\"pass\":" ++ Text.ofNat snapshot.pass ++ ",\"changed\":" ++
    Text.ofBool snapshot.changed ++ ",\"out\":" ++ jsonOut snapshot.out ++
    "\x7d"

end Snapshot

end GenKill
