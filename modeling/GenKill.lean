import GenKill.Command
import GenKill.Command.Help
import GenKill.Command.Output
import GenKill.Command.Run
import GenKill.Direction
import GenKill.Disk
import GenKill.Dot.Document
import GenKill.Dot.Grammar
import GenKill.Dot.Identifier
import GenKill.Dot.Reader
import GenKill.Dot.Sketch
import GenKill.Dot.Token
import GenKill.Dot.Writer
import GenKill.Error
import GenKill.FactSet
import GenKill.Flag
import GenKill.Graph
import GenKill.Graph.Reach
import GenKill.Hcl.Eval
import GenKill.Hcl.Expr
import GenKill.Hcl.Grammar
import GenKill.Hcl.Schema
import GenKill.Hcl.Template
import GenKill.Hcl.Token
import GenKill.Hcl.Value
import GenKill.Log
import GenKill.Main
import GenKill.Number
import GenKill.Pass
import GenKill.Pass.Log
import GenKill.Path
import GenKill.Problem
import GenKill.Problem.Annotation
import GenKill.Problem.Declaration
import GenKill.Problem.Elements
import GenKill.Problem.Examples
import GenKill.Problem.File
import GenKill.Problem.Hcl
import GenKill.Property
import GenKill.Session
import GenKill.Settings
import GenKill.Settings.Json
import GenKill.Settings.Toml
import GenKill.Settings.Value
import GenKill.Settings.Yaml
import GenKill.Settings.Yaml.Cursor
import GenKill.Settings.Yaml.Node
import GenKill.Settings.Yaml.Scalar
import GenKill.Settings.Yaml.Token
import GenKill.Snapshot
import GenKill.System
import GenKill.Table
import GenKill.Text
import GenKill.Text.Blank
import GenKill.Text.CodePoints
import GenKill.Text.Distance
import GenKill.Text.Glyph
import GenKill.Text.Identifier
import GenKill.Text.Integer
import GenKill.Text.Lowercase
import GenKill.Text.Normal
import GenKill.Text.Printable
import GenKill.Text.Quoted
import GenKill.Universe
import GenKill.Workbench
import GenKill.Proofs.FactSet
import GenKill.Proofs.Strand
import GenKill.Proofs.System
import GenKill.Proofs.Pass
import GenKill.Proofs.Solution
import GenKill.Proofs.Walks
import GenKill.Proofs.Text
import GenKill.Proofs.Dot.Attributes
import GenKill.Proofs.Dot.Names
import GenKill.Proofs.Dot.Reader
import GenKill.Proofs.Dot.RoundTrip
import GenKill.Proofs.Dot.Decoded
import GenKill.Proofs.Dot.Distinct
import GenKill.Proofs.Dot.Plain
import GenKill.Proofs.Problem.Elements
import GenKill.Proofs.Problem.System
import GenKill.Proofs.Problem.Annotation
import GenKill.Proofs.Dot.Listing
import GenKill.Proofs.Agreement
import GenKill.Proofs.Dot.Restored
import GenKill.Proofs.Problem.Text
import GenKill.Proofs.Route
import GenKill.Proofs.Settling
import GenKill.Proofs.Failure
import GenKill.Proofs.Graph
import GenKill.Proofs.Graph.Growth
import GenKill.Proofs.Graph.Ledger
import GenKill.Proofs.Snapshot
import GenKill.Proofs.Ending
import GenKill.Proofs.Session
import GenKill.Proofs.Problem.Run
import GenKill.Proofs.Workbench
import GenKill.Proofs.Validity
import GenKill.Proofs.Renaming
import GenKill.Proofs.Monotone
import GenKill.Proofs.Restriction
import GenKill.Proofs.SystemCalls
import GenKill.Proofs.Graph.Reach
import GenKill.Proofs.Graph.Search
import GenKill.Proofs.Upstream
import GenKill.Proofs.Acyclic
import GenKill.Proofs.Change
import GenKill.Proofs.Problem.Refusal
import GenKill.Proofs.Problem.Carried
import GenKill.Proofs.Problem.Declaration
import GenKill.Proofs.Problem.Spelling
import GenKill.Proofs.Packed.Sets
import GenKill.Proofs.Packed.Terms
import GenKill.Proofs.Simulation
import GenKill.Proofs.Reversal
import GenKill.Proofs.Dot.Naming
import GenKill.Proofs.Sharing
