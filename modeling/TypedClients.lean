import TypedClients.AttributeDefinitions
import TypedClients.CSharp.Escape
import TypedClients.CSharp.Printer
import TypedClients.CSharp.Syntax
import TypedClients.CSharp.Word
import TypedClients.Client
import TypedClients.Client.Encode
import TypedClients.Command
import TypedClients.Command.Arguments
import TypedClients.Command.Attributes
import TypedClients.Command.Generate
import TypedClients.Command.Generate.Plan
import TypedClients.Command.Grammar
import TypedClients.Command.Inspect
import TypedClients.Command.Outcome
import TypedClients.Command.Places
import TypedClients.Command.Run
import TypedClients.Declaration
import TypedClients.Declaration.Decode
import TypedClients.Declaration.Encode
import TypedClients.Declaration.Files
import TypedClients.Declaration.Source
import TypedClients.Defaults
import TypedClients.Diagnostic
import TypedClients.Document
import TypedClients.Entries
import TypedClients.Extraction
import TypedClients.FileChange
import TypedClients.FilePath
import TypedClients.FileTree
import TypedClients.GeneratedFile
import TypedClients.Generation.ClientUnit
import TypedClients.Generation.Content
import TypedClients.Generation.Header
import TypedClients.Generation.MethodBody
import TypedClients.Generation.Response
import TypedClients.Generation.ResultKind
import TypedClients.Generation.Stub
import TypedClients.Generation.Url
import TypedClients.Json.Fault
import TypedClients.Json.Number
import TypedClients.Json.Printer
import TypedClients.Json.Reader
import TypedClients.Layout
import TypedClients.LineDiff
import TypedClients.LineDiff.Hunk
import TypedClients.Main
import TypedClients.PathTemplate
import TypedClients.ProjectConfig
import TypedClients.ProjectConfig.File
import TypedClients.Proofs.CSharp.Assignment
import TypedClients.Proofs.CSharp.Escape
import TypedClients.Proofs.CSharp.Evaluation
import TypedClients.Proofs.CSharp.Execution
import TypedClients.Proofs.CSharp.Expressions
import TypedClients.Proofs.CSharp.Identifier
import TypedClients.Proofs.CSharp.Interpolation
import TypedClients.Proofs.CSharp.LineEnds
import TypedClients.Proofs.CSharp.Lines
import TypedClients.Proofs.CSharp.Literal
import TypedClients.Proofs.CSharp.Mapping
import TypedClients.Proofs.CSharp.MemberCalls
import TypedClients.Proofs.CSharp.Operands
import TypedClients.Proofs.CSharp.Precedence
import TypedClients.Proofs.CSharp.PrintedInterpolation
import TypedClients.Proofs.CSharp.Printer
import TypedClients.Proofs.CSharp.Reachability
import TypedClients.Proofs.CSharp.ReadBack
import TypedClients.Proofs.CSharp.Reader
import TypedClients.Proofs.CSharp.Reference
import TypedClients.Proofs.CSharp.Scope
import TypedClients.Proofs.CSharp.Suffixes
import TypedClients.Proofs.CSharp.TextValue
import TypedClients.Proofs.CSharp.Trace
import TypedClients.Proofs.Command.Check
import TypedClients.Proofs.Command.Confinement
import TypedClients.Proofs.Command.Convergence
import TypedClients.Proofs.Command.Failure
import TypedClients.Proofs.Command.Frame
import TypedClients.Proofs.Command.Generate
import TypedClients.Proofs.Command.Plan
import TypedClients.Proofs.Command.Sources
import TypedClients.Proofs.Command.Targets
import TypedClients.Proofs.Declaration
import TypedClients.Proofs.Declaration.Files
import TypedClients.Proofs.Declaration.ReadBack
import TypedClients.Proofs.Declaration.Rearrangement
import TypedClients.Proofs.Extraction
import TypedClients.Proofs.Extraction.Eligibility
import TypedClients.Proofs.Extraction.Options
import TypedClients.Proofs.Extraction.Spelling
import TypedClients.Proofs.FileChange
import TypedClients.Proofs.FileChange.Counts
import TypedClients.Proofs.FilePath
import TypedClients.Proofs.FileTree
import TypedClients.Proofs.FileTree.Below
import TypedClients.Proofs.FileTree.Frame
import TypedClients.Proofs.GeneratedFile
import TypedClients.Proofs.GeneratedFile.Balance
import TypedClients.Proofs.Generation.Address
import TypedClients.Proofs.Generation.Calls
import TypedClients.Proofs.Generation.Cancellation
import TypedClients.Proofs.Generation.ClientUnit
import TypedClients.Proofs.Generation.Course
import TypedClients.Proofs.Generation.DefiniteReturn
import TypedClients.Proofs.Generation.ErrorPolicy
import TypedClients.Proofs.Generation.Independence
import TypedClients.Proofs.Generation.Interpolation
import TypedClients.Proofs.Generation.Layout
import TypedClients.Proofs.Generation.Legibility
import TypedClients.Proofs.Generation.LineEnds
import TypedClients.Proofs.Generation.Lines
import TypedClients.Proofs.Generation.LocalScopes
import TypedClients.Proofs.Generation.Locals
import TypedClients.Proofs.Generation.Names
import TypedClients.Proofs.Generation.ParameterUse
import TypedClients.Proofs.Generation.PartialMethods
import TypedClients.Proofs.Generation.Placeholders
import TypedClients.Proofs.Generation.QueryString
import TypedClients.Proofs.Generation.References
import TypedClients.Proofs.Generation.Request
import TypedClients.Proofs.Generation.RequestContent
import TypedClients.Proofs.Generation.ResultKind
import TypedClients.Proofs.Generation.ReturnedValues
import TypedClients.Proofs.Generation.SentHeaders
import TypedClients.Proofs.Generation.SharedStubs
import TypedClients.Proofs.Generation.Structure
import TypedClients.Proofs.Generation.Stub
import TypedClients.Proofs.Generation.StubSearch
import TypedClients.Proofs.Layout
import TypedClients.Proofs.Layout.Lines
import TypedClients.Proofs.Layout.Run
import TypedClients.Proofs.LineDiff
import TypedClients.Proofs.LineDiff.Counts
import TypedClients.Proofs.LineDiff.Patch
import TypedClients.Proofs.PathTemplate
import TypedClients.Proofs.PathTemplate.Segmentation
import TypedClients.Proofs.ProjectConfig
import TypedClients.Proofs.ProjectConfig.Acceptance
import TypedClients.Proofs.ReturnShape
import TypedClients.Proofs.Serialization
import TypedClients.Proofs.Text.Blank
import TypedClients.Proofs.Text.Digits
import TypedClients.Proofs.Text.Fold
import TypedClients.Proofs.Text.Items
import TypedClients.Proofs.Text.Numbered
import TypedClients.Proofs.Text.Pieces
import TypedClients.Proofs.Text.Unbroken
import TypedClients.Proofs.TypeSyntax.Grammar
import TypedClients.Proofs.TypeSyntax.Progress
import TypedClients.Proofs.TypeSyntax.Reading
import TypedClients.Proofs.TypeSyntax.Rendering
import TypedClients.Proofs.TypeSyntax.Token
import TypedClients.Proofs.Workspace
import TypedClients.ReturnShape
import TypedClients.Serialization
import TypedClients.Text.Blank
import TypedClients.Text.Digits
import TypedClients.Text.Double
import TypedClients.Text.Fold
import TypedClients.Text.Letter
import TypedClients.Text.Pieces
import TypedClients.Toml.Item
import TypedClients.Toml.Line
import TypedClients.Toml.Moment
import TypedClients.Toml.Number
import TypedClients.Toml.Quoted
import TypedClients.Toml.Reader
import TypedClients.Toml.Value
import TypedClients.TypeSyntax
import TypedClients.TypeSyntax.Parser
import TypedClients.Workspace
import TypedClients.Yaml.Cursor
import TypedClients.Yaml.Fault
import TypedClients.Yaml.Node
import TypedClients.Yaml.Node.Parser
import TypedClients.Yaml.Reader
import TypedClients.Yaml.Scalar
import TypedClients.Yaml.Token
import TypedClients.Yaml.Token.Block
import TypedClients.Yaml.Token.Gap
import TypedClients.Yaml.Token.Lexer
import TypedClients.Yaml.Token.Plain
import TypedClients.Yaml.Token.Quoted
import TypedClients.Yaml.Token.Tag
