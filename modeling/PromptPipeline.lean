import PromptPipeline.Collection.Basic
import PromptPipeline.Collection.Folder
import PromptPipeline.Command.Basic
import PromptPipeline.Command.Json
import PromptPipeline.Command.Vocabulary
import PromptPipeline.Compile.Basic
import PromptPipeline.Compile.Error
import PromptPipeline.Compile.Options
import PromptPipeline.Decimal.Shortest
import PromptPipeline.Directive.Basic
import PromptPipeline.Directive.Execute
import PromptPipeline.Directive.Expect
import PromptPipeline.Directive.Iterate
import PromptPipeline.Directive.Joker
import PromptPipeline.Directive.Knowledge
import PromptPipeline.Directive.Model
import PromptPipeline.Directive.Parameter
import PromptPipeline.Directive.Persona
import PromptPipeline.Directive.Postprocess
import PromptPipeline.Directive.Url
import PromptPipeline.Directive.Version
import PromptPipeline.Document.Basic
import PromptPipeline.Document.Extract
import PromptPipeline.Document.Print
import PromptPipeline.Flowchart
import PromptPipeline.Grammar.Basic
import PromptPipeline.Grammar.Error
import PromptPipeline.Grammar.Token
import PromptPipeline.Idna.Direction
import PromptPipeline.Idna.Joining
import PromptPipeline.Idna.Label
import PromptPipeline.Idna.Mapping
import PromptPipeline.Idna.Punycode
import PromptPipeline.Json.Basic
import PromptPipeline.Json.Decode
import PromptPipeline.Json.Printer
import PromptPipeline.Json.Reader
import PromptPipeline.Keyword
import PromptPipeline.Markdown.Block
import PromptPipeline.Markdown.Emphasis
import PromptPipeline.Markdown.Entity
import PromptPipeline.Markdown.Event
import PromptPipeline.Markdown.Html
import PromptPipeline.Markdown.Inline
import PromptPipeline.Markdown.Line
import PromptPipeline.Markdown.Link
import PromptPipeline.Markdown.Marker
import PromptPipeline.Markdown.Reader
import PromptPipeline.Name.Basic
import PromptPipeline.Name.Set
import PromptPipeline.Notice
import PromptPipeline.Pipeline.Basic
import PromptPipeline.Pipeline.Json
import PromptPipeline.Preparation
import PromptPipeline.Proofs.Compile.Declarations
import PromptPipeline.Proofs.Compile.Established
import PromptPipeline.Proofs.Compile.Printable
import PromptPipeline.Proofs.Compile.References
import PromptPipeline.Proofs.Compile.Reordering
import PromptPipeline.Proofs.Compile.RoundTrip
import PromptPipeline.Proofs.Compile.Run
import PromptPipeline.Proofs.Compile.Section
import PromptPipeline.Proofs.Compile.Shared
import PromptPipeline.Proofs.Document.Escape
import PromptPipeline.Proofs.Document.Heard
import PromptPipeline.Proofs.Document.Layout
import PromptPipeline.Proofs.Document.Legible
import PromptPipeline.Proofs.Document.ReadBack
import PromptPipeline.Proofs.Document.Told
import PromptPipeline.Proofs.Edit.Applicable
import PromptPipeline.Proofs.Edit.Bounds
import PromptPipeline.Proofs.Edit.Built
import PromptPipeline.Proofs.Edit.Coherent
import PromptPipeline.Proofs.Edit.Refusal
import PromptPipeline.Proofs.Edit.Replay
import PromptPipeline.Proofs.Edit.Run
import PromptPipeline.Proofs.Edit.Step
import PromptPipeline.Proofs.Grammar.Arguments
import PromptPipeline.Proofs.Grammar.Faithful
import PromptPipeline.Proofs.Grammar.Heard
import PromptPipeline.Proofs.Grammar.Keyword
import PromptPipeline.Proofs.Grammar.Parse
import PromptPipeline.Proofs.Grammar.Reading
import PromptPipeline.Proofs.Grammar.Rest
import PromptPipeline.Proofs.Grammar.Standard
import PromptPipeline.Proofs.Grammar.Token
import PromptPipeline.Proofs.Grammar.Words
import PromptPipeline.Proofs.Grammar.Write
import PromptPipeline.Proofs.Json.Command
import PromptPipeline.Proofs.Json.Pipeline
import PromptPipeline.Proofs.Json.Record
import PromptPipeline.Proofs.Json.Scalar
import PromptPipeline.Proofs.Json.Text
import PromptPipeline.Proofs.Markdown.Chunks
import PromptPipeline.Proofs.Markdown.Items
import PromptPipeline.Proofs.Markdown.Leaves
import PromptPipeline.Proofs.Markdown.Lines
import PromptPipeline.Proofs.Name.References
import PromptPipeline.Proofs.Name.Validate
import PromptPipeline.Proofs.Text.Split
import PromptPipeline.Proofs.Text.Trim
import PromptPipeline.Proofs.Validation.Downstream
import PromptPipeline.Proofs.Validation.Executable
import PromptPipeline.Proofs.Validation.Grounded
import PromptPipeline.Proofs.Validation.Head
import PromptPipeline.Proofs.Validation.Reordering
import PromptPipeline.Proofs.Validation.Sorting
import PromptPipeline.SemanticVersion
import PromptPipeline.Text.Basic
import PromptPipeline.Text.Digit
import PromptPipeline.Text.Quoted
import PromptPipeline.Unicode.Alphabetic
import PromptPipeline.Unicode.CaseMapping
import PromptPipeline.Unicode.Cased
import PromptPipeline.Unicode.Class
import PromptPipeline.Unicode.GraphemeExtend
import PromptPipeline.Unicode.Mark
import PromptPipeline.Unicode.Number
import PromptPipeline.Unicode.Printable
import PromptPipeline.Unicode.Punctuation
import PromptPipeline.Unicode.Stretch
import PromptPipeline.Url.Address
import PromptPipeline.Url.Basic
import PromptPipeline.Url.Domain
import PromptPipeline.Url.Reader
import PromptPipeline.Validation.Basic
import PromptPipeline.Validation.Dependency
import PromptPipeline.Validation.Violation
import PromptPipeline.Yaml.Basic
import PromptPipeline.Yaml.Position
import PromptPipeline.Yaml.Reader
import PromptPipeline.Yaml.Scalar
import PromptPipeline.Yaml.Token
import PromptPipeline.Proofs.Collection.Members
import PromptPipeline.Proofs.Compile.Preparation
import PromptPipeline.Proofs.Edit.Head
import PromptPipeline.Proofs.Edit.Agreement
import PromptPipeline.Proofs.Grammar.Build
import PromptPipeline.Proofs.Validation.Census
import PromptPipeline.Proofs.Validation.Cycles
import PromptPipeline.Proofs.Document.Nested
import PromptPipeline.Proofs.Document.Outline
import PromptPipeline.Proofs.Edit.Conflict
import PromptPipeline.Proofs.Compile.Redeclaration
import PromptPipeline.Proofs.Edit.Expected
import PromptPipeline.Proofs.Grammar.Longest
import PromptPipeline.Proofs.Name.Stable
import PromptPipeline.Proofs.Edit.Personas
import PromptPipeline.Proofs.Validation.Stripping
import PromptPipeline.Proofs.Name.Recased
import PromptPipeline.Proofs.Compile.Nodes
import PromptPipeline.Proofs.Url.Authority
import PromptPipeline.Proofs.Url.Https
import PromptPipeline.Proofs.Validation.Published
import PromptPipeline.Proofs.Validation.Termination
import PromptPipeline.Proofs.Grammar.Spacing
import PromptPipeline.Proofs.Grammar.Lexemes
import PromptPipeline.Proofs.Document.Inlines
import PromptPipeline.Proofs.Document.Prose
import PromptPipeline.Proofs.Document.Fence
import PromptPipeline.Proofs.Document.Position
import PromptPipeline.Proofs.Name.Derived
import PromptPipeline.Proofs.Name.Placeholders
