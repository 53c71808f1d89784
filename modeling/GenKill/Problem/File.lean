import GenKill.Dot.Reader
import GenKill.Path
import GenKill.Problem.Annotation
import GenKill.Problem.Hcl

/-!
# Problem files

The format of a problem file follows from its extension, in any case.
-/

namespace GenKill.Problem

/-- A problem that has no name is named after its file. -/
def named (path : Text) (problem : Problem) : Problem :=
  if problem.name = [] then { problem with name := Path.stem path } else problem

/-- The graph in a file, by what reading the file gave. -/
def readDot (ident : Nat) (path : Text) : Except Error Text → Except Error Graph
  | .error (.unreadFile file reason) =>
      .error (.within ("unable to parse " ++ path.quote)
        (.unreadFile file reason))
  | .error error => .error error
  | .ok source =>
      inContext ("unable to parse " ++ path.quote) (Dot.readGraph ident source)

/-- The problem in a file, by what reading the file gave.  An unknown extension
is refused whatever the file holds. -/
def ofFile (graphIdent factsIdent : Nat) (path : Text)
    (contents : Except Error Text) : Except Error Problem :=
  let kind := (Path.extension path).lower
  if kind = ".dot" ∨ kind = ".gv" then
    match readDot graphIdent path contents with
    | .error error => .error error
    | .ok graph =>
        (inContext ("invalid problem in " ++ path.quote)
          (ofGraph factsIdent graph)).map (named path)
  else if kind = ".hcl" then
    match contents with
    | .error error => .error error
    | .ok source => (ofHcl graphIdent factsIdent path source).map (named path)
  else .error (.unknownExtension path kind)

end GenKill.Problem
