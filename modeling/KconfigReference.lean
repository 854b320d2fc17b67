import KconfigReference.Calendar.Date
import KconfigReference.Calendar.Pattern
import KconfigReference.Check.Page
import KconfigReference.Command.Generate
import KconfigReference.Command.Options
import KconfigReference.Command.Outcome
import KconfigReference.Command.Verify
import KconfigReference.Failure
import KconfigReference.Files.Survey
import KconfigReference.Files.Tree
import KconfigReference.Kconfig.Cursor
import KconfigReference.Kconfig.Entry
import KconfigReference.Kconfig.Line
import KconfigReference.Kconfig.Nesting
import KconfigReference.Kconfig.Source
import KconfigReference.Main
import KconfigReference.Number.Binary64
import KconfigReference.Number.Decimal
import KconfigReference.Number.Shortest
import KconfigReference.Page.Document
import KconfigReference.Page.Item
import KconfigReference.Page.Markup
import KconfigReference.Page.Staging
import KconfigReference.Proofs.Balance
import KconfigReference.Proofs.Check.Attribute
import KconfigReference.Proofs.Check.Balance
import KconfigReference.Proofs.Check.Verdict
import KconfigReference.Proofs.Command.Course
import KconfigReference.Proofs.Command.Delivering
import KconfigReference.Proofs.Command.Failing
import KconfigReference.Proofs.Conditions
import KconfigReference.Proofs.Coverage
import KconfigReference.Proofs.Drafting
import KconfigReference.Proofs.Escaping
import KconfigReference.Proofs.Files.Alike
import KconfigReference.Proofs.Files.Change
import KconfigReference.Proofs.Files.Sourcing
import KconfigReference.Proofs.HelpText
import KconfigReference.Proofs.Inlining
import KconfigReference.Proofs.Kconfig.Attributes
import KconfigReference.Proofs.Kconfig.Blocks
import KconfigReference.Proofs.Kconfig.Cursor
import KconfigReference.Proofs.Kconfig.Cutting
import KconfigReference.Proofs.Kconfig.Matching
import KconfigReference.Proofs.Kconfig.NormalForm
import KconfigReference.Proofs.Kconfig.Quotation
import KconfigReference.Proofs.Kconfig.Reading
import KconfigReference.Proofs.Kconfig.Searching
import KconfigReference.Proofs.Kconfig.Tidy
import KconfigReference.Proofs.Limits
import KconfigReference.Proofs.Numbering
import KconfigReference.Proofs.Padding
import KconfigReference.Proofs.Page.Brackets
import KconfigReference.Proofs.Page.Composition
import KconfigReference.Proofs.Page.Frame
import KconfigReference.Proofs.Page.Passing
import KconfigReference.Proofs.Page.Quiet
import KconfigReference.Proofs.Page.Staging
import KconfigReference.Proofs.Page.Tags
import KconfigReference.Proofs.Page.Tidy
import KconfigReference.Proofs.Reporting
import KconfigReference.Proofs.Settings
import KconfigReference.Proofs.Spacing
import KconfigReference.Proofs.Streams
import KconfigReference.Proofs.Structure.Items
import KconfigReference.Proofs.Structure.Rendering
import KconfigReference.Proofs.Structure.Stepping
import KconfigReference.Proofs.Structure.Walking
import KconfigReference.Proofs.Template.Json
import KconfigReference.Proofs.Template.Load
import KconfigReference.Proofs.Template.Yaml.Composing
import KconfigReference.Proofs.Template.Yaml.Drawing
import KconfigReference.Proofs.Template.Yaml.Scanning
import KconfigReference.Proofs.Termination
import KconfigReference.Proofs.Text.Entity
import KconfigReference.Proofs.Text.Intake
import KconfigReference.Proofs.Text.LineEnding
import KconfigReference.Proofs.Text.Utf8
import KconfigReference.Proofs.Text.Words
import KconfigReference.Proofs.Verified
import KconfigReference.Proofs.Walk.Apply
import KconfigReference.Proofs.Walk.Argument
import KconfigReference.Proofs.Walk.Faults
import KconfigReference.Proofs.Walk.Flat
import KconfigReference.Proofs.Walk.Growth
import KconfigReference.Proofs.Walk.Invariant
import KconfigReference.Proofs.Walk.Itinerary
import KconfigReference.Proofs.Walk.Lines
import KconfigReference.Proofs.Walk.Machine
import KconfigReference.Proofs.Walk.Masking
import KconfigReference.Proofs.Walk.Parallel
import KconfigReference.Proofs.Walk.Recorded
import KconfigReference.Proofs.Walk.Run
import KconfigReference.Proofs.Walk.SideBySide
import KconfigReference.Proofs.Walk.Sources
import KconfigReference.Proofs.Walk.Tidy
import KconfigReference.Proofs.Walk.Untouched
import KconfigReference.Reference
import KconfigReference.Setting.Basic
import KconfigReference.Setting.Written
import KconfigReference.Template.Assignment.Basic
import KconfigReference.Template.Assignment.Coding
import KconfigReference.Template.Assignment.Number
import KconfigReference.Template.Assignment.Quote
import KconfigReference.Template.Assignment.Run
import KconfigReference.Template.Assignment.Statement
import KconfigReference.Template.Assignment.Token
import KconfigReference.Template.Json
import KconfigReference.Template.Load
import KconfigReference.Template.Yaml.Block
import KconfigReference.Template.Yaml.Input
import KconfigReference.Template.Yaml.Merge
import KconfigReference.Template.Yaml.Node
import KconfigReference.Template.Yaml.Outline
import KconfigReference.Template.Yaml.Plain
import KconfigReference.Template.Yaml.Property
import KconfigReference.Template.Yaml.Quoted
import KconfigReference.Template.Yaml.Scalar
import KconfigReference.Template.Yaml.Stamp
import KconfigReference.Template.Yaml.Tag
import KconfigReference.Template.Yaml.Token
import KconfigReference.Template.Yaml.Value
import KconfigReference.Text.Base64
import KconfigReference.Text.Basic
import KconfigReference.Text.CharacterName.Alphabets
import KconfigReference.Text.CharacterName.Ancient
import KconfigReference.Text.CharacterName.EastAsian
import KconfigReference.Text.CharacterName.Logograms
import KconfigReference.Text.CharacterName.Named
import KconfigReference.Text.CharacterName.Notation
import KconfigReference.Text.CharacterName.Operators
import KconfigReference.Text.CharacterName.Other
import KconfigReference.Text.CharacterName.Pictographs
import KconfigReference.Text.CharacterName.Run
import KconfigReference.Text.CharacterName.Shapes
import KconfigReference.Text.CharacterName.Syllabaries
import KconfigReference.Text.Charset.Basic
import KconfigReference.Text.Charset.Chinese
import KconfigReference.Text.Charset.ChineseExtension
import KconfigReference.Text.Charset.ChineseTable
import KconfigReference.Text.Charset.CodePage
import KconfigReference.Text.Charset.Domain
import KconfigReference.Text.Charset.HongKongTable
import KconfigReference.Text.Charset.Iso8859
import KconfigReference.Text.Charset.Japanese
import KconfigReference.Text.Charset.JapaneseExtension
import KconfigReference.Text.Charset.JapaneseSupplement
import KconfigReference.Text.Charset.JapaneseTable
import KconfigReference.Text.Charset.Known
import KconfigReference.Text.Charset.Korean
import KconfigReference.Text.Charset.KoreanTable
import KconfigReference.Text.Charset.Macintosh
import KconfigReference.Text.Charset.Mainframe
import KconfigReference.Text.Charset.National
import KconfigReference.Text.Charset.Shifting
import KconfigReference.Text.Charset.TaiwanTable
import KconfigReference.Text.Charset.Units
import KconfigReference.Text.Charset.Windows
import KconfigReference.Text.CodePoint
import KconfigReference.Text.Digit
import KconfigReference.Text.Escape
import KconfigReference.Text.Intake
import KconfigReference.Text.Normal.Composition
import KconfigReference.Text.Normal.Decomposition
import KconfigReference.Text.Normal.Form
import KconfigReference.Text.Quoted
import KconfigReference.Text.Symbol
import KconfigReference.Text.Utf8
import KconfigReference.Walk.Line
import KconfigReference.Walk.Run
import KconfigReference.Walk.State
