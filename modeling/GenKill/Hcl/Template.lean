import GenKill.Hcl.Expr
import GenKill.Text.Blank

/-!
# Templates

A template is a list of parts: texts, values, and directives that open and close
branches and loops.  `Template.expr?` checks that the directives nest and builds
the expression.
-/

namespace GenKill.Hcl.Template

inductive Part where
  | text (text : Text)
  | value (expr : Expr)
  | openIf (condition : Expr)
  | otherwise
  | closeIf
  | openFor (key : Option Text) (name : Text) (source : Expr)
  | closeFor

/-- Parts in reverse, the last of which loses the blanks at its end if it is a
text. -/
def trimLast : List Part → List Part
  | .text text :: rest => .text text.trimEnd :: rest
  | parts => parts

/-! ### Indentation -/

def isBlankLine (text : Text) : Bool :=
  text.trimStart.isEmpty && text.endsWith "\n"

/-- The number of blanks that a text starts with. -/
def indentation (text : Text) : Nat :=
  text.glyphs.length - (text.glyphs.dropWhile Glyph.isBlank).length

/-- The indentations of the lines, blank lines left out; `start` says that a
line starts here. -/
def indentations : Bool → List Part → List Nat
  | _, [] => []
  | start, .text text :: rest =>
      let more := indentations (text.endsWith "\n") rest
      if start && !isBlankLine text then indentation text :: more else more
  | start, _ :: rest =>
      if start then 0 :: indentations false rest else indentations false rest

/-- Takes a number of characters off every line that is not blank. -/
def dedent (count : Nat) : Bool → List Part → List Part
  | _, [] => []
  | start, .text text :: rest =>
      let own :=
        if start && !isBlankLine text then
          Text.ofGlyphs (text.glyphs.drop count)
        else text
      .text own :: dedent count (text.endsWith "\n") rest
  | _, part :: rest => part :: dedent count false rest

/-- Takes the indentation that all lines share off each of them. -/
def flush (parts : List Part) : List Part :=
  match (indentations true parts).min? with
  | some count => dedent count true parts
  | none => parts

/-! ### Directives -/

/-- A template of some expressions; an empty one is an empty text. -/
def ofParts (parts : List Expr) : Expr :=
  .template (if parts.isEmpty then [.literal (.ofText [])] else parts)

/-- Reads parts up to a directive that closes or divides a section. -/
def sections : Nat → List Part → Option (List Expr × List Part)
  | 0, _ => none
  | _ + 1, [] => some ([], [])
  | fuel + 1, .text text :: rest =>
      prepend (.literal (.ofText text)) (sections fuel rest)
  | fuel + 1, .value expr :: rest => prepend expr (sections fuel rest)
  | fuel + 1, .openIf condition :: rest =>
      match sections fuel rest with
      | some (yes, .closeIf :: rest) =>
          prepend (.conditional condition (ofParts yes) (ofParts []))
            (sections fuel rest)
      | some (yes, .otherwise :: rest) =>
          match sections fuel rest with
          | some (no, .closeIf :: rest) =>
              prepend (.conditional condition (ofParts yes) (ofParts no))
                (sections fuel rest)
          | _ => none
      | _ => none
  | fuel + 1, .openFor key name source :: rest =>
      match sections fuel rest with
      | some (inner, .closeFor :: rest) =>
          prepend (.concat (.forTuple key name source (ofParts inner) []))
            (sections fuel rest)
      | _ => none
  | _ + 1, parts => some ([], parts)
where
  prepend (expr : Expr) :
      Option (List Expr × List Part) → Option (List Expr × List Part)
    | none => none
    | some (more, rest) => some (expr :: more, rest)

/-- The expression of a template.  A single value is passed on as it is. -/
def expr? (parts : List Part) : Option Expr :=
  match parts with
  | [.value expr] => some (.group expr)
  | _ =>
      match sections (parts.length + 1) parts with
      | some (exprs, []) => some (ofParts exprs)
      | _ => none

end GenKill.Hcl.Template
