import GenKill.Dot.Document
import GenKill.Dot.Token

/-!
# The grammar of DOT text

Recursive descent over the tokens.  Each function returns what it read and the
tokens after it.  The recursion is bounded by a number of levels; `document?`
starts with more levels than its tokens can open.
-/

namespace GenKill.Dot.Grammar

/-- The settings after an opening bracket, and of the bracketed lists that
follow directly. -/
def settings : List Token → Option (List Setting × List Token)
  | .rightBracket :: .leftBracket :: rest => settings rest
  | .rightBracket :: rest => some ([], rest)
  | .id key :: .equals :: .id value :: .semicolon :: rest =>
      (settings rest).map (add key value)
  | .id key :: .equals :: .id value :: .comma :: rest =>
      (settings rest).map (add key value)
  | .id key :: .equals :: .id value :: rest =>
      (settings rest).map (add key value)
  | _ => none
where
  add (key value : Text) : List Setting × List Token → List Setting × List Token
    | (more, rest) =>
        (⟨Identifier.normal key, Identifier.normal value⟩ :: more, rest)

def optionalSettings : List Token → Option (List Setting × List Token)
  | .leftBracket :: rest => settings rest
  | tokens => some ([], tokens)

def defaults (subject : Subject) (tokens : List Token) :
    Option (Statement × List Token) :=
  (settings tokens).map fun (own, rest) => (.defaults subject own, rest)

/-- The points of the compass an anchor may end with. -/
def compass : List Text :=
  ["n", "ne", "e", "se", "s", "sw", "w", "nw", "c", "_"]

/-- The anchor after a node's identifier, as text. -/
def anchor : List Token → Option (Text × List Token)
  | .colon :: .id first :: .colon :: .id second :: rest =>
      let point := Identifier.normal second
      some (":" ++ Identifier.normal first ++
        (if point ∈ compass then ":" ++ point else []), rest)
  | .colon :: .id _ :: .colon :: _ => none
  | .colon :: .id first :: rest => some (":" ++ Identifier.normal first, rest)
  | .colon :: _ => none
  | tokens => some ([], tokens)

/-- Whether a token starts a link, and whether that is an arrow. -/
def linkSign? : Token → Option Bool
  | .arrow => some true
  | .dashes => some false
  | _ => none

mutual

/-- The statements up to a closing brace, which is read too. -/
def statements : Nat → List Token → Option (List Statement × List Token)
  | 0, _ => none
  | _ + 1, .rightBrace :: rest => some ([], rest)
  | depth + 1, tokens =>
      match statement depth tokens with
      | none => none
      | some (first, .semicolon :: rest) =>
          (statements depth rest).map fun (more, rest) => (first :: more, rest)
      | some (first, rest) =>
          (statements depth rest).map fun (more, rest) => (first :: more, rest)

def statement : Nat → List Token → Option (Statement × List Token)
  | 0, _ => none
  | _ + 1, .graph :: .leftBracket :: rest => defaults .graph rest
  | _ + 1, .node :: .leftBracket :: rest => defaults .node rest
  | _ + 1, .edge :: .leftBracket :: rest => defaults .edge rest
  | _ + 1, .id key :: .equals :: .id value :: rest =>
      some (.assign ⟨Identifier.normal key, Identifier.normal value⟩, rest)
  | depth + 1, tokens =>
      match vertex depth tokens with
      | none => none
      | some (first, rest) =>
          match links depth rest, first with
          | none, _ => none
          | some ([], rest), .group id inner => some (.group id inner, rest)
          | some ([], rest), .node place =>
              (optionalSettings rest).map fun (own, rest) =>
                (.node place own, rest)
          | some (found, rest), first =>
              (optionalSettings rest).map fun (own, rest) =>
                (.edge first found own, rest)

def vertex : Nat → List Token → Option (Vertex × List Token)
  | 0, _ => none
  | _ + 1, .id id :: rest =>
      (anchor rest).map fun (anchor, rest) =>
        (.node ⟨Identifier.normal id, anchor⟩, rest)
  | depth + 1, .subgraph :: .id id :: .leftBrace :: rest =>
      (statements depth rest).map fun (inner, rest) =>
        (.group (Identifier.normal id) inner, rest)
  | depth + 1, .subgraph :: .leftBrace :: rest =>
      (statements depth rest).map fun (inner, rest) => (.group [] inner, rest)
  | depth + 1, .leftBrace :: rest =>
      (statements depth rest).map fun (inner, rest) => (.group [] inner, rest)
  | _ + 1, _ => none

def links : Nat → List Token → Option (List Link × List Token)
  | 0, _ => none
  | _ + 1, [] => some ([], [])
  | depth + 1, head :: rest =>
      match linkSign? head with
      | none => some ([], head :: rest)
      | some directed =>
          match vertex depth rest with
          | none => none
          | some (next, rest) =>
              (links depth rest).map fun (more, rest) =>
                (.mk directed next :: more, rest)

end

/-- Levels that suffice for a list of tokens: each statement takes three levels
per token. -/
def enough (tokens : List Token) : Nat := 3 * tokens.length + 3

/-- The name of a graph and its statements. -/
def body (directed : Bool) : List Token → Option (Document.Graph × List Token)
  | .leftBrace :: rest =>
      (statements (enough rest) rest).map fun (inner, rest) =>
        (⟨directed, [], inner⟩, rest)
  | .id id :: .leftBrace :: rest =>
      (statements (enough rest) rest).map fun (inner, rest) =>
        (⟨directed, Identifier.normal id, inner⟩, rest)
  | _ => none

def graph : List Token → Option (Document.Graph × List Token)
  | .strict :: .graph :: rest => body false rest
  | .strict :: .digraph :: rest => body true rest
  | .graph :: rest => body false rest
  | .digraph :: rest => body true rest
  | _ => none

/-- One graph or more. -/
def graphs : Nat → List Token → Option (List Document.Graph)
  | 0, _ => none
  | count + 1, tokens =>
      match graph tokens with
      | none => none
      | some (first, []) => some [first]
      | some (first, rest) => (graphs count rest).map (first :: ·)

end Grammar

/-- The graphs of a DOT text; none if it does not follow the grammar. -/
def document? (source : Text) : Option (List Document.Graph) :=
  match tokens? source with
  | none => none
  | some tokens => Grammar.graphs tokens.length tokens

end GenKill.Dot
