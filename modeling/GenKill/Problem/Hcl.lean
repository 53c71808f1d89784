import GenKill.Hcl.Grammar
import GenKill.Hcl.Schema
import GenKill.Problem.Declaration

/-!
# Problems in HCL

A file gives the universe, one `node` block for each node and one `edge` block
for each edge.
-/

namespace GenKill

namespace Declaration

open Hcl

def fileSchema : Schema where
  arguments :=
    [("name", false), ("universe", true), ("initial", false),
     ("direction", false)]
  blocks := [("node", 1), ("edge", 0)]

def nodeSchema : Schema where
  arguments := [("name", false), ("gen", false), ("kill", false)]

def edgeSchema : Schema where
  arguments := [("from", true), ("to", true)]

def readNode (block : Block) : Reading Node :=
  let name := block.body.readText "name"
  let gen := block.body.readTexts "gen"
  let kill := block.body.readTexts "kill"
  { value := {
      label := block.labels.headD [], name := name.value
      gen := gen.value, kill := kill.value }
    complaints :=
      nodeSchema.complaints block.body ++ name.complaints ++ gen.complaints ++
        kill.complaints }

def readEdge (block : Block) : Reading Edge :=
  let source := block.body.readText "from"
  let target := block.body.readText "to"
  { value := { source := source.value, target := target.value }
    complaints :=
      edgeSchema.complaints block.body ++ source.complaints ++
        target.complaints }

/-- Reads all of a file, with the complaints about every part of it. -/
def readBody (body : Body) : Reading Declaration :=
  let name := body.readText "name"
  let elements := body.readTexts "universe"
  let initial := body.readText "initial"
  let direction := body.readText "direction"
  let nodes := (fileSchema.accepted body "node").map readNode
  let edges := (fileSchema.accepted body "edge").map readEdge
  { value := {
      name := name.value
      elements := elements.value.getD []
      initial := initial.value
      direction := direction.value
      nodes := nodes.map Reading.value
      edges := edges.map Reading.value }
    complaints :=
      fileSchema.complaints body ++ name.complaints ++ elements.complaints ++
        initial.complaints ++ direction.complaints ++
        nodes.flatMap Reading.complaints ++ edges.flatMap Reading.complaints }

/-- The declaration that a text makes.  Complaints are in alphabetical order. -/
def ofHcl (source : Text) : Except Error Declaration :=
  match Hcl.body? source with
  | none => .error .hclSyntax
  | some body =>
      let reading := readBody body
      if reading.complaints.isEmpty then .ok reading.value
      else
        .error (.hclMisfit (reading.complaints.mergeSort fun left right =>
          !Text.before right left))

end Declaration

/-- Reads a problem; `file` names the text in messages. -/
def Problem.ofHcl (graphIdent factsIdent : Nat) (file source : Text) :
    Except Error Problem :=
  match Declaration.ofHcl source with
  | .error .hclSyntax =>
      .error (.within ("failed to parse HCL file " ++ file) .hclSyntax)
  | .error error =>
      .error (.within ("failed to decode HCL file " ++ file) error)
  | .ok declaration =>
      inContext ("invalid problem in " ++ file)
        (declaration.problem graphIdent factsIdent)

end GenKill
