import ScriptTemplate.Ambient
import ScriptTemplate.Bytes
import ScriptTemplate.CommandLine.Arguments
import ScriptTemplate.CommandLine.Catalog
import ScriptTemplate.CommandLine.Disk
import ScriptTemplate.CommandLine.Files
import ScriptTemplate.CommandLine.Help
import ScriptTemplate.CommandLine.Run
import ScriptTemplate.CommandLine.Switch
import ScriptTemplate.Compile.Reference
import ScriptTemplate.Compile.Text
import ScriptTemplate.Compile.Top
import ScriptTemplate.Compile.Transform
import ScriptTemplate.Compiler
import ScriptTemplate.Data
import ScriptTemplate.Dictionary
import ScriptTemplate.Digest.Ripemd160
import ScriptTemplate.Digest.Sha256
import ScriptTemplate.Digest.Word
import ScriptTemplate.Document.Data
import ScriptTemplate.Document.Environment
import ScriptTemplate.Document.Field
import ScriptTemplate.Document.Numeral
import ScriptTemplate.Document.Problem
import ScriptTemplate.Environment
import ScriptTemplate.Environment.Classification
import ScriptTemplate.Escape
import ScriptTemplate.Json.Basic
import ScriptTemplate.Json.Printer
import ScriptTemplate.Json.Reader
import ScriptTemplate.Log.Conversion
import ScriptTemplate.Log.Gap
import ScriptTemplate.Log.Level
import ScriptTemplate.Log.Record
import ScriptTemplate.Log.Template
import ScriptTemplate.Log.Timestamp
import ScriptTemplate.Machine.Basic
import ScriptTemplate.Machine.Push
import ScriptTemplate.Main
import ScriptTemplate.Metrics
import ScriptTemplate.Number.Basic
import ScriptTemplate.Number.Binary
import ScriptTemplate.Number.Rounded
import ScriptTemplate.Number.Shortest
import ScriptTemplate.Outcome
import ScriptTemplate.ParseFailure
import ScriptTemplate.Proofs.Escapes
import ScriptTemplate.Proofs.Gathering
import ScriptTemplate.Proofs.MachineRuns
import ScriptTemplate.Proofs.PureOutcome
import ScriptTemplate.Proofs.ScriptHash
import ScriptTemplate.Proofs.StandardStages
import ScriptTemplate.Report
import ScriptTemplate.Script.Lexeme
import ScriptTemplate.Script.Node
import ScriptTemplate.Script.Opcode
import ScriptTemplate.Script.Reduction
import ScriptTemplate.Script.Resolved
import ScriptTemplate.Script.Token
import ScriptTemplate.Settings
import ScriptTemplate.Source
import ScriptTemplate.Text.Basic
import ScriptTemplate.Text.Blank
import ScriptTemplate.Text.Case
import ScriptTemplate.Text.CaseTable
import ScriptTemplate.Text.Digit
import ScriptTemplate.Text.Integer
import ScriptTemplate.Text.Printable
import ScriptTemplate.Text.Quoted
import ScriptTemplate.Toolchain.Basic
import ScriptTemplate.Toolchain.Prepared
import ScriptTemplate.Toolchain.Standard
import ScriptTemplate.Trace
import ScriptTemplate.Vocabulary
import ScriptTemplate.Vocabulary.Reading
import ScriptTemplate.Proofs.Descent
import ScriptTemplate.Proofs.References
import ScriptTemplate.Proofs.AncestryIndependence
import ScriptTemplate.Proofs.Cycles
import ScriptTemplate.Proofs.Grammar
import ScriptTemplate.Proofs.TreeValues
import ScriptTemplate.Proofs.Inlining
import ScriptTemplate.Proofs.AmbientIndependence
import ScriptTemplate.Proofs.RelevantInputs
import ScriptTemplate.Proofs.ResultShape
import ScriptTemplate.Proofs.Chronicle
import ScriptTemplate.Proofs.CompilationTrace
import ScriptTemplate.Proofs.OwnText
import ScriptTemplate.Proofs.AcceptedTexts
import ScriptTemplate.Proofs.Statistics
import ScriptTemplate.Proofs.LocktimeGate
import ScriptTemplate.Proofs.EvaluationAccounts
import ScriptTemplate.Proofs.MachineNeed
import ScriptTemplate.Proofs.TokenOrder
import ScriptTemplate.Proofs.NameErrors
import ScriptTemplate.Proofs.Concatenation
import ScriptTemplate.Proofs.TreePrinting
import ScriptTemplate.Proofs.ParseFailures
import ScriptTemplate.Proofs.SourceRanges
import ScriptTemplate.Proofs.DependencyDepth
import ScriptTemplate.Proofs.MachineSafety
import ScriptTemplate.Proofs.DocumentBytes
import ScriptTemplate.Proofs.EnvironmentMaking
import ScriptTemplate.Proofs.MachineComposition
import ScriptTemplate.Proofs.NestedScopes
import ScriptTemplate.Proofs.PushForms
import ScriptTemplate.Proofs.SettingsFaults
