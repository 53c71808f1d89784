import GenKill.Text.Quoted

/-!
# Causes of failure

Every operation that can be refused says why by a cause; the wording stands in
one place (`Error.message`).  A cause may be wrapped in the contexts it passed
through, the outermost context first.
-/

namespace GenKill

inductive Error where
  -- graphs
  | duplicateLabel (label : Text)
  | unknownLabel (label : Text)
  | foreignNode (name : Text)
  -- facts
  | duplicateElement (element : Text)
  | elementOutside (element : Text)
  | setOutside (set : Text)
  | invalidElement (element : Text)
  -- runs
  | invalidDirection (name : Text)
  | invalidInitial (name : Text)
  | canceled
  | noFixedPoint (passes : Nat)
  -- files
  | missingFile (path : Text)
  | unopenedFile (path reason : Text)
  | unreadFile (path reason : Text)
  | unknownExtension (path extension : Text)
  | unknownExample (name : Text) (names : List Text)
  -- formats
  | dotSyntax
  | directedEdge (graph source target : Text)
  | graphCount (count : Nat)
  | hclSyntax
  | hclMisfit (summaries : List Text)
  | settingsSyntax
  | settingsFormat (extension : Text)
  -- command line
  | usage (complaint : Text)
  | within (context : Text) (error : Error)

namespace Error

def message : Error → Text
  | duplicateLabel label => "label " ++ label.quote ++ ": duplicate node label"
  | unknownLabel label => "label " ++ label.quote ++ ": unknown node label"
  | foreignNode name =>
      "node " ++ name.quote ++ ": node belongs to another graph"
  | duplicateElement element =>
      "element " ++ element.quote ++ ": duplicate universe element"
  | elementOutside element =>
      "element " ++ element.quote ++ ": value outside of universe"
  | setOutside set => "set " ++ set ++ ": value outside of universe"
  | invalidElement element =>
      "element " ++ element.quote ++ ": invalid universe element"
  | invalidDirection name =>
      "invalid analysis direction " ++ name.quote ++
        "; expected forward or backward"
  | invalidInitial name =>
      "invalid initial out value " ++ name.quote ++
        "; expected empty or universe"
  | canceled => "context canceled"
  | noFixedPoint passes =>
      "no fixed point after " ++ Text.ofNat passes ++ " passes"
  | missingFile path => "open " ++ path ++ ": no such file or directory"
  | unopenedFile path reason => "open " ++ path ++ ": " ++ reason
  | unreadFile path reason => "read " ++ path ++ ": " ++ reason
  | unknownExtension path extension =>
      "unable to load " ++ path.quote ++ "; unknown file extension " ++
        extension.quote
  | unknownExample name names =>
      "unknown example " ++ name.quote ++ "; expected one of [" ++
        Text.join " " names ++ "]"
  | dotSyntax => "syntax error in DOT text"
  | directedEdge graph source target =>
      "undirected graph " ++ graph.quote ++ " contains directed edge from " ++
        source.quote ++ " to " ++ target.quote
  | graphCount count =>
      "invalid number of graphs; expected 1, got " ++ Text.ofNat count
  | hclSyntax => "syntax error in HCL text"
  | hclMisfit summaries => Text.join "; " summaries
  | settingsSyntax => "syntax error in configuration file"
  | settingsFormat extension => "Unsupported Config Type " ++ extension.quote
  | usage complaint => complaint
  | within context error => context ++ ": " ++ error.message

/-- The cause without its contexts. -/
def cause : Error → Error
  | within _ error => error.cause
  | error => error

end Error

/-- Faults are mistakes of the caller that stop an operation where it stands. -/
inductive Fault where
  /-- Sets of two universes, given as they are shown, were combined. -/
  | universeMismatch (left right : Text)
  | brokenUpdate (error : Error)
  | invalidEdge (error : Error)
  | invalidUniverse (error : Error)
  | invalidSet (error : Error)

def Fault.message : Fault → Text
  | universeMismatch left right =>
      "set universe mismatch; " ++ left ++ " and " ++ right
  | brokenUpdate error => "unable to update out set; " ++ error.message
  | invalidEdge error => "unable to add edge; " ++ error.message
  | invalidUniverse error => "invalid universe; " ++ error.message
  | invalidSet error => "invalid set; " ++ error.message

/-- Names the place in which a failure happened. -/
def inContext {α : Type} (context : Text) : Except Error α → Except Error α
  | .ok value => .ok value
  | .error error => .error (.within context error)

end GenKill
