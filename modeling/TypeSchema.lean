import TypeSchema.CommandLine.Directory
import TypeSchema.CommandLine.Message
import TypeSchema.CommandLine.Request
import TypeSchema.CommandLine.Run
import TypeSchema.Config
import TypeSchema.Declaration.Decode
import TypeSchema.Declaration.Encode
import TypeSchema.Declaration.Source
import TypeSchema.DocComment
import TypeSchema.GenerateError
import TypeSchema.Json.Reader
import TypeSchema.Json.Value
import TypeSchema.Json.Writer
import TypeSchema.Name
import TypeSchema.Pattern
import TypeSchema.Pattern.Regex
import TypeSchema.Refinement
import TypeSchema.Schema
import TypeSchema.Schema.Render
import TypeSchema.SchemaModule
import TypeSchema.Text.Cited
import TypeSchema.Text.Escape
import TypeSchema.Text.Identifier
import TypeSchema.Text.Numeral
import TypeSchema.Text.Quoted
import TypeSchema.Text.Trim
import TypeSchema.Toml.Document
import TypeSchema.Toml.Reader
import TypeSchema.Toml.Scalar
import TypeSchema.TypeNode
import TypeSchema.TypeNode.Compile
import TypeSchema.TypeScript.Lexeme
import TypeSchema.TypeScript.Lowering
import TypeSchema.TypeScript.Source
import TypeSchema.TypeScript.StatementGrammar
import TypeSchema.TypeScript.SyntaxTree
import TypeSchema.TypeScript.Template
import TypeSchema.TypeScript.Token
import TypeSchema.TypeScript.TypeGrammar
import TypeSchema.Unicode.Blank
import TypeSchema.Unicode.Case
import TypeSchema.Unicode.CaseMapping
import TypeSchema.Unicode.CharSet
import TypeSchema.Unicode.Letter
import TypeSchema.Unicode.Number
import TypeSchema.Unicode.Printable
import TypeSchema.Unicode.Word
import TypeSchema.Utility
import TypeSchema.Main
import TypeSchema.Proofs.TypeNode.Compilation
import TypeSchema.Proofs.TypeNode.Notation
import TypeSchema.Proofs.TypeNode.Check
import TypeSchema.Proofs.Result
import TypeSchema.Proofs.SchemaModule.Skipping
import TypeSchema.Proofs.Name
import TypeSchema.Proofs.Pattern
import TypeSchema.Proofs.Text.Quoted
import TypeSchema.Proofs.Schema.Grammar
import TypeSchema.Proofs.Text.Numeral
import TypeSchema.Proofs.TypeNode.Grammar
import TypeSchema.Proofs.Schema.Reading
import TypeSchema.Proofs.Schema.Rendering
import TypeSchema.Proofs.TypeScript.Token
import TypeSchema.Proofs.Pattern.Matching
import TypeSchema.Proofs.TypeScript.WrittenKey
import TypeSchema.Proofs.TypeNode.Atoms
import TypeSchema.Proofs.TypeNode.Output
import TypeSchema.Proofs.Pattern.Literal
import TypeSchema.Proofs.SchemaModule.Strict
import TypeSchema.Proofs.Text.Line
import TypeSchema.Proofs.DocComment
import TypeSchema.Proofs.Schema.Lines
import TypeSchema.Proofs.SchemaModule.Paragraphs
import TypeSchema.Proofs.Json.RoundTrip
import TypeSchema.Proofs.Declaration.RoundTrip
import TypeSchema.Proofs.TypeNode.Hydration
import TypeSchema.Proofs.TypeScript.Commented
import TypeSchema.Proofs.Name.CamelCase
import TypeSchema.Proofs.SchemaModule.Identifiers
import TypeSchema.Proofs.Text.Trim
import TypeSchema.Proofs.DocComment.BlockComment
import TypeSchema.Proofs.Schema.Pieces
import TypeSchema.Proofs.Declaration.GivenTexts
import TypeSchema.Proofs.CommandLine.Directory
import TypeSchema.Proofs.CommandLine.Arguments
import TypeSchema.Proofs.CommandLine.Run
import TypeSchema.Proofs.Pattern.SourceUnit
import TypeSchema.Proofs.Text.LineText
import TypeSchema.Proofs.DocComment.Layout
import TypeSchema.Proofs.DocComment.Directives
import TypeSchema.Proofs.Text.StringLiteral
import TypeSchema.Proofs.Schema.Details
import TypeSchema.Proofs.TypeNode.Selection
import TypeSchema.Proofs.TypeNode.Masks
import TypeSchema.Proofs.Name.CaseForms
import TypeSchema.Proofs.Name.Identifier
import TypeSchema.Proofs.Schema.Draft
import TypeSchema.Proofs.Schema.Indentation
import TypeSchema.Proofs.Text.Decimal
import TypeSchema.Proofs.Text.NumericLiteral
import TypeSchema.Proofs.Refinement.Limit
import TypeSchema.Proofs.Schema.BareKey
import TypeSchema.Proofs.Schema.Constructors
import TypeSchema.Proofs.SchemaModule.Library
import TypeSchema.Proofs.TypeScript.Lowered
import TypeSchema.Proofs.TypeScript.Bases
import TypeSchema.Proofs.TypeScript.NormalForm
import TypeSchema.Proofs.TypeScript.ObjectBody
import TypeSchema.Proofs.TypeScript.Comments
import TypeSchema.Proofs.Name.Spelling
import TypeSchema.Proofs.Pattern.Outline
import TypeSchema.Proofs.TypeScript.Template
import TypeSchema.Proofs.TypeScript.Interpolation
import TypeSchema.Proofs.TypeScript.Heritage
import TypeSchema.Proofs.Refinement.LengthBound
import TypeSchema.Proofs.Name.Words
import TypeSchema.Proofs.Declaration.Hydration
import TypeSchema.Proofs.Declaration.Relaid
