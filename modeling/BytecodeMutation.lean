import BytecodeMutation.Binary.Basic
import BytecodeMutation.Binary.Layout
import BytecodeMutation.Catalog.Basic
import BytecodeMutation.Catalog.File
import BytecodeMutation.Catalog.Json
import BytecodeMutation.ClassUnit.Basic
import BytecodeMutation.ClassUnit.File
import BytecodeMutation.ClassUnit.Json
import BytecodeMutation.Command.Basic
import BytecodeMutation.Command.Help
import BytecodeMutation.Command.Run
import BytecodeMutation.Command.Usage
import BytecodeMutation.Config.Basic
import BytecodeMutation.Config.File
import BytecodeMutation.Config.Template
import BytecodeMutation.Decimal.Digits
import BytecodeMutation.Decimal.Form
import BytecodeMutation.Decimal.Shortest
import BytecodeMutation.Descriptor.Basic
import BytecodeMutation.Descriptor.Text
import BytecodeMutation.Digest.Md5
import BytecodeMutation.Engine.Basic
import BytecodeMutation.Engine.SetUp
import BytecodeMutation.Engine.Traversal
import BytecodeMutation.Error
import BytecodeMutation.Failure
import BytecodeMutation.FileTree.Basic
import BytecodeMutation.Instruction.Basic
import BytecodeMutation.Instruction.Json
import BytecodeMutation.Instruction.Mnemonic
import BytecodeMutation.Instruction.Operation
import BytecodeMutation.Json.Basic
import BytecodeMutation.Json.Number
import BytecodeMutation.Json.Reader
import BytecodeMutation.Json.Writer
import BytecodeMutation.Main
import BytecodeMutation.Operator.Basic
import BytecodeMutation.Operator.Literal
import BytecodeMutation.Operator.Replacement
import BytecodeMutation.Operator.Selection
import BytecodeMutation.Operator.Substitution
import BytecodeMutation.Operator.UnaryStep
import BytecodeMutation.Path
import BytecodeMutation.Pattern.Basic
import BytecodeMutation.Pattern.Bracket
import BytecodeMutation.Pattern.CaseTable
import BytecodeMutation.Pattern.CategoryTable
import BytecodeMutation.Pattern.CharSet
import BytecodeMutation.Pattern.Escape
import BytecodeMutation.Pattern.FoldTable
import BytecodeMutation.Pattern.Parser
import BytecodeMutation.Pattern.Program
import BytecodeMutation.Pattern.Property
import BytecodeMutation.Pattern.ScriptTable
import BytecodeMutation.Pattern.Search
import BytecodeMutation.Pattern.Source
import BytecodeMutation.Pattern.Syntax
import BytecodeMutation.Pattern.Template
import BytecodeMutation.Pattern.WordTable
import BytecodeMutation.Policy
import BytecodeMutation.Policy.Patterns
import BytecodeMutation.Proofs.Catalog.Answers
import BytecodeMutation.Proofs.Catalog.Building
import BytecodeMutation.Proofs.Catalog.Initializers
import BytecodeMutation.Proofs.Catalog.Records
import BytecodeMutation.Proofs.Catalog.Replacements
import BytecodeMutation.Proofs.ClassUnit.RoundTrip
import BytecodeMutation.Proofs.Command.Files
import BytecodeMutation.Proofs.Command.Generations
import BytecodeMutation.Proofs.Command.Saving
import BytecodeMutation.Proofs.Command.Selection
import BytecodeMutation.Proofs.Command.Session
import BytecodeMutation.Proofs.Decimal.Digits
import BytecodeMutation.Proofs.Descriptor.Grammar
import BytecodeMutation.Proofs.Descriptor.RoundTrip
import BytecodeMutation.Proofs.Digest.Md5
import BytecodeMutation.Proofs.Distinct
import BytecodeMutation.Proofs.Engine.Difference
import BytecodeMutation.Proofs.Engine.Discovery
import BytecodeMutation.Proofs.Engine.Enumeration
import BytecodeMutation.Proofs.Engine.FrameFit
import BytecodeMutation.Proofs.Engine.Growth
import BytecodeMutation.Proofs.Engine.Independence
import BytecodeMutation.Proofs.Engine.Numbering
import BytecodeMutation.Proofs.Engine.Offers
import BytecodeMutation.Proofs.Engine.Passes
import BytecodeMutation.Proofs.Engine.Production
import BytecodeMutation.Proofs.Engine.Reversal
import BytecodeMutation.Proofs.Engine.RoundTrip
import BytecodeMutation.Proofs.Engine.SingleFault
import BytecodeMutation.Proofs.FileTree.Changes
import BytecodeMutation.Proofs.Flow.Basic
import BytecodeMutation.Proofs.Instruction.RoundTrip
import BytecodeMutation.Proofs.Json.Fields
import BytecodeMutation.Proofs.Json.Lexical
import BytecodeMutation.Proofs.Json.RoundTrip
import BytecodeMutation.Proofs.Machine.Arithmetic
import BytecodeMutation.Proofs.Machine.Basic
import BytecodeMutation.Proofs.Operator.Arguments
import BytecodeMutation.Proofs.Operator.Candidates
import BytecodeMutation.Proofs.Operator.Constants
import BytecodeMutation.Proofs.Operator.Families
import BytecodeMutation.Proofs.Operator.KeptOperand
import BytecodeMutation.Proofs.Operator.Marshal
import BytecodeMutation.Proofs.Operator.Redirected
import BytecodeMutation.Proofs.Operator.Selection
import BytecodeMutation.Proofs.Operator.SlotHistory
import BytecodeMutation.Proofs.Operator.StandIn
import BytecodeMutation.Proofs.Operator.UnaryEffect
import BytecodeMutation.Proofs.Report.Entry
import BytecodeMutation.Proofs.Report.Keyed
import BytecodeMutation.Proofs.Report.Order
import BytecodeMutation.Proofs.Report.Printed
import BytecodeMutation.Proofs.Report.Summary
import BytecodeMutation.Proofs.Site.History
import BytecodeMutation.Proofs.Site.Identifiers
import BytecodeMutation.Proofs.Stack.Agreement
import BytecodeMutation.Proofs.Stack.Exactness
import BytecodeMutation.Proofs.Stack.Forms
import BytecodeMutation.Proofs.Stack.Reached
import BytecodeMutation.Proofs.Stack.Trace
import BytecodeMutation.Proofs.Stack.Values
import BytecodeMutation.Proofs.Stack.Whole
import BytecodeMutation.Proofs.Text.Bytes
import BytecodeMutation.Proofs.Typing.Candidates
import BytecodeMutation.Proofs.Typing.Machine
import BytecodeMutation.Proofs.Typing.Rewritten
import BytecodeMutation.Report.Colour
import BytecodeMutation.Report.Json
import BytecodeMutation.Report.Keyed
import BytecodeMutation.Report.Listing
import BytecodeMutation.Report.Renaming
import BytecodeMutation.Report.Summary
import BytecodeMutation.Site.Basic
import BytecodeMutation.Site.Json
import BytecodeMutation.Site.Registry
import BytecodeMutation.Stack.Effect
import BytecodeMutation.Stack.Replacement
import BytecodeMutation.Stack.Symbolic
import BytecodeMutation.Text.Padded
import BytecodeMutation.Text.Quoted
import BytecodeMutation.Text.Similarity
import BytecodeMutation.Text.Unprintable
import BytecodeMutation.Toml.Document
import BytecodeMutation.Toml.Number
import BytecodeMutation.Toml.Reader
import BytecodeMutation.Toml.Token
import BytecodeMutation.Toml.Value
import BytecodeMutation.Workspace.Basic
