import BehaviorTraits.Action
import BehaviorTraits.Actor
import BehaviorTraits.CSharp.File
import BehaviorTraits.CSharp.Literal
import BehaviorTraits.Capability
import BehaviorTraits.Class.Basic
import BehaviorTraits.Class.FieldTable
import BehaviorTraits.Command.Basic
import BehaviorTraits.Command.Run
import BehaviorTraits.Condition
import BehaviorTraits.Config
import BehaviorTraits.Digest.Sha256
import BehaviorTraits.Files.Basic
import BehaviorTraits.Files.Path
import BehaviorTraits.Files.Tree
import BehaviorTraits.Generation
import BehaviorTraits.Hook.Code
import BehaviorTraits.Hook.Lowering
import BehaviorTraits.Hook.Pairing
import BehaviorTraits.Hook.Plan
import BehaviorTraits.Json.Basic
import BehaviorTraits.Json.Number
import BehaviorTraits.Json.Printer
import BehaviorTraits.Json.Reader
import BehaviorTraits.Json.Token
import BehaviorTraits.Layout
import BehaviorTraits.Log
import BehaviorTraits.Main
import BehaviorTraits.MiniYaml
import BehaviorTraits.Number.Binary64
import BehaviorTraits.Number.Percent
import BehaviorTraits.Number.Shortest
import BehaviorTraits.Proofs.ActionGrammar
import BehaviorTraits.Proofs.Ascending
import BehaviorTraits.Proofs.AskedConditions
import BehaviorTraits.Proofs.BodyMargins
import BehaviorTraits.Proofs.ByteOrder
import BehaviorTraits.Proofs.CapabilityRecords
import BehaviorTraits.Proofs.ClassNames
import BehaviorTraits.Proofs.ClassRows
import BehaviorTraits.Proofs.ConditionGrammar
import BehaviorTraits.Proofs.ConfigValues
import BehaviorTraits.Proofs.DeadEnds
import BehaviorTraits.Proofs.DeclaredFields
import BehaviorTraits.Proofs.Dependencies
import BehaviorTraits.Proofs.DocumentShape
import BehaviorTraits.Proofs.DroppedChildren
import BehaviorTraits.Proofs.EventSources
import BehaviorTraits.Proofs.Events
import BehaviorTraits.Proofs.Execution
import BehaviorTraits.Proofs.Faults
import BehaviorTraits.Proofs.FieldDemands
import BehaviorTraits.Proofs.FieldUses
import BehaviorTraits.Proofs.FileAgreement
import BehaviorTraits.Proofs.Findings
import BehaviorTraits.Proofs.FirstSeen
import BehaviorTraits.Proofs.IdBlind
import BehaviorTraits.Proofs.InfoFields
import BehaviorTraits.Proofs.IntLiterals
import BehaviorTraits.Proofs.JsonReading
import BehaviorTraits.Proofs.KeySpelling
import BehaviorTraits.Proofs.LineEnds
import BehaviorTraits.Proofs.LineNumbers
import BehaviorTraits.Proofs.Lines
import BehaviorTraits.Proofs.Literals
import BehaviorTraits.Proofs.LiveNodes
import BehaviorTraits.Proofs.LogBlind
import BehaviorTraits.Proofs.LoweredLines
import BehaviorTraits.Proofs.MergedSiblings
import BehaviorTraits.Proofs.MiniYamlReading
import BehaviorTraits.Proofs.NameClashes
import BehaviorTraits.Proofs.Nesting
import BehaviorTraits.Proofs.NumberTexts
import BehaviorTraits.Proofs.NumberedNames
import BehaviorTraits.Proofs.OpposedConditions
import BehaviorTraits.Proofs.OpposedTexts
import BehaviorTraits.Proofs.Outline
import BehaviorTraits.Proofs.Pairing
import BehaviorTraits.Proofs.PermittedCode
import BehaviorTraits.Proofs.QuotedTexts
import BehaviorTraits.Proofs.RecordLog
import BehaviorTraits.Proofs.Rows
import BehaviorTraits.Proofs.SiblingMatching
import BehaviorTraits.Proofs.SourceNesting
import BehaviorTraits.Proofs.SourceReading
import BehaviorTraits.Proofs.SteadyCode
import BehaviorTraits.Proofs.StreamDepth
import BehaviorTraits.Proofs.SubjectCache
import BehaviorTraits.Proofs.TokenStream
import BehaviorTraits.Proofs.TreeDemands
import BehaviorTraits.Proofs.TreeDocuments
import BehaviorTraits.Proofs.TreeEvaluation
import BehaviorTraits.Proofs.Trimmed
import BehaviorTraits.Proofs.Unbroken
import BehaviorTraits.Proofs.UnfinishedComparisons
import BehaviorTraits.Proofs.Words
import BehaviorTraits.Proofs.WrittenCode
import BehaviorTraits.Schema
import BehaviorTraits.Synthesis
import BehaviorTraits.Text.Blank
import BehaviorTraits.Text.Case
import BehaviorTraits.Text.CaseTable
import BehaviorTraits.Text.Cased
import BehaviorTraits.Text.CodeRanges
import BehaviorTraits.Text.Digit
import BehaviorTraits.Text.Identifier
import BehaviorTraits.Text.Line
import BehaviorTraits.Text.Printable
import BehaviorTraits.Text.Quoted
import BehaviorTraits.Text.Split
import BehaviorTraits.Tree.Basic
import BehaviorTraits.Tree.Document
import BehaviorTraits.Tree.Error
import BehaviorTraits.Validation
import BehaviorTraits.Yaml.Basic
import BehaviorTraits.Yaml.Node
import BehaviorTraits.Yaml.Scalar
import BehaviorTraits.Yaml.Token
import BehaviorTraits.Yaml.Value
