import GenKill.Command

/-!
# Help texts
-/

namespace GenKill

namespace Flag

/-- The name of the value that a flag takes. -/
def Kind.shown : Flag.Kind → Text
  | .text => " string"
  | .integer => " int"
  | .byte => " uint8"
  | .switch => ""

/-- The flag in the first column of a list. -/
def column (flag : Flag) : Text :=
  let lead : Text := match flag.letter with
    | some letter => "  -" ++ letter :: ", --"
    | none => "      --"
  lead ++ flag.name ++ flag.kind.shown

/-- The default, where it is not zero, false or nothing. -/
def shownFallback (flag : Flag) : Text :=
  match flag.fallback with
  | .text [] => []
  | .text value => " (default " ++ value.quote ++ ")"
  | .integer value =>
      if value = 0 then [] else " (default " ++ Text.ofInt value ++ ")"
  | _ => []

/-- A list of flags in the order of their names, the second column three blanks
after the widest entry of the first. -/
def list (flags : List Flag) : Text :=
  let sorted :=
    flags.mergeSort fun left right => !Text.before right.name left.name
  let width := (sorted.map fun flag => flag.column.length).foldl max 0
  let line (flag : Flag) : Text :=
    flag.column ++ List.replicate (width + 3 - flag.column.length) 32 ++
      flag.usage ++ flag.shownFallback
  Text.join "\n" (sorted.map line)

end Flag

namespace Command

/-- The commands in the order of their names, with what they are for. -/
def listed : List (Text × Text) :=
  let entries := all.map fun command => (command.name, command.short)
  let completion : Text × Text :=
    ("completion", "Generate the autocompletion script for the specified shell")
  (completion :: entries).mergeSort fun left right =>
    !Text.before right.1 left.1

def listingLine (entry : Text × Text) : Text :=
  let padding : Text := List.replicate (12 - entry.1.length) 32
  "\n  " ++ entry.1 ++ padding ++ entry.2

/-- How the program is used, by its flags. -/
def programUsage (flags : List Flag) : Text :=
  "Usage:\n  dataflow [command]\n\nAvailable Commands:" ++
    listed.flatMap listingLine ++ "\n\nFlags:\n" ++ Flag.list flags ++
    "\n\nUse \"dataflow [command] --help\" for more information about a command.\n"

def programHelp : Text :=
  "dataflow - solve gen/kill data-flow problems over control flow graphs\n\n" ++
    programUsage (helpFlag "dataflow" :: Settings.flags)

/-- How a command is used. -/
def usage (command : Command) : Text :=
  "Usage:\n  dataflow " ++ command.name ++ " " ++ command.argument ++
    " [flags]\n\nFlags:\n" ++ Flag.list command.ownFlags ++
    "\n\nGlobal Flags:\n" ++ Flag.list Settings.flags ++ "\n"

def helpText (command : Command) : Text :=
  command.long ++ "\n\n" ++ command.usage

/-- A character that can stand between backquotes. -/
def fitsBackquotes : Glyph → Bool
  | .char character =>
      (0x20 ≤ character.toNat || character = '\t') && character.toNat ≠ 96 &&
        character.toNat ≠ 0x7f && character.toNat ≠ 0xfeff
  | .stray _ => false

/-- A word between backquotes, if it can stand there. -/
def backquoted (word : Text) : Text :=
  if word.glyphs.all fitsBackquotes then 96 :: word ++ [96] else word.quote

/-- What is said about a topic that there is no help for.  The flag for help is
not among the flags that are listed here. -/
def unknownTopic (words : List Text) : Text :=
  "Unknown help topic [" ++ Text.join " " (words.map backquoted) ++ "]\n" ++
    programUsage Settings.flags

end Command

end GenKill
