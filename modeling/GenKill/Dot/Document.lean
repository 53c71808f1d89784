import GenKill.Dot.Identifier
import GenKill.Error

/-!
# Statements of DOT text

A document is a list of graphs; a graph is a list of statements, which nest
through subgraphs.  Identifiers are kept as they are written.
-/

namespace GenKill.Dot

/-- `key=value` -/
structure Setting where
  key : Text
  value : Text

/-- A node mentioned by a statement, with its anchor as text. -/
structure Place where
  id : Text
  anchor : Text := []

/-- What default attributes apply to. -/
inductive Subject where
  | graph
  | node
  | edge

mutual

inductive Vertex where
  | node (place : Place)
  | group (id : Text) (statements : List Statement)

/-- One step of an edge statement: whether it is an arrow, and where it
leads. -/
inductive Link where
  | mk (directed : Bool) (vertex : Vertex)

inductive Statement where
  | node (place : Place) (settings : List Setting)
  | edge (first : Vertex) (links : List Link) (settings : List Setting)
  | defaults (subject : Subject) (settings : List Setting)
  | assign (setting : Setting)
  | group (id : Text) (statements : List Statement)

end

structure Document.Graph where
  directed : Bool
  id : Text
  statements : List Statement

/-! ### Statements as text -/

def Setting.text (setting : Setting) : Text :=
  setting.key ++ "=" ++ setting.value

def Place.text (place : Place) : Text := place.id ++ place.anchor

def Subject.text : Subject → Text
  | graph => "graph"
  | node => "node"
  | edge => "edge"

def settingsText (settings : List Setting) : Text :=
  "[" ++ Text.join " " (settings.map Setting.text) ++ "]"

/-- Nothing for no settings. -/
def trailingSettings (settings : List Setting) : Text :=
  if settings.isEmpty then [] else " " ++ settingsText settings

def groupText (id : Text) (statements : List Text) : Text :=
  let lead : Text := if id = [] then [] else "subgraph " ++ id ++ " "
  lead ++ "\x7b" ++ Text.join " " statements ++ "\x7d"

mutual

def Vertex.text : Vertex → Text
  | .node place => place.text
  | .group id statements => groupText id (statementTexts statements)

def Link.text : Link → Text
  | .mk true vertex => "-> " ++ vertex.text
  | .mk false vertex => "-- " ++ vertex.text

def linkTexts : List Link → List Text
  | [] => []
  | link :: rest => link.text :: linkTexts rest

def Statement.text : Statement → Text
  | .node place settings => place.text ++ trailingSettings settings
  | .edge first links settings =>
      first.text ++ " " ++ Text.join " " (linkTexts links) ++
        trailingSettings settings
  | .defaults subject settings => subject.text ++ " " ++ settingsText settings
  | .assign setting => setting.text
  | .group id statements => groupText id (statementTexts statements)

def statementTexts : List Statement → List Text
  | [] => []
  | statement :: rest => statement.text :: statementTexts rest

end

/-! ### Arrows -/

mutual

/-- The first arrow inside a vertex: the texts of its two ends. -/
def Vertex.arrow? : Vertex → Option (Text × Text)
  | .node _ => none
  | .group _ statements => firstArrow? statements

/-- The first arrow among the links that follow a vertex with the given text. -/
def linksArrow? (source : Text) : List Link → Option (Text × Text)
  | [] => none
  | .mk directed vertex :: rest =>
      if directed then some (source, vertex.text)
      else vertex.arrow? <|> linksArrow? vertex.text rest

def Statement.arrow? : Statement → Option (Text × Text)
  | .edge first links _ => first.arrow? <|> linksArrow? first.text links
  | .group _ statements => firstArrow? statements
  | _ => none

def firstArrow? : List Statement → Option (Text × Text)
  | [] => none
  | statement :: rest => statement.arrow? <|> firstArrow? rest

end

/-- The first arrow of an undirected graph, which has to have none. -/
def Document.Graph.arrowError? (graph : Document.Graph) : Option Error :=
  if graph.directed then none
  else (firstArrow? graph.statements).map fun (source, target) =>
    .directedEdge graph.id source target

end GenKill.Dot
