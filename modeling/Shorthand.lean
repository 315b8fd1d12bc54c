import Shorthand.Configuration
import Shorthand.Css
import Shorthand.Dict
import Shorthand.Expander
import Shorthand.Expander.Probe
import Shorthand.Expander.Small
import Shorthand.Family
import Shorthand.Family.Json
import Shorthand.Html
import Shorthand.Html.Format
import Shorthand.Html.Parser
import Shorthand.Html.Stages
import Shorthand.Json.Basic
import Shorthand.Json.Decode
import Shorthand.Json.Merge
import Shorthand.Json.Number
import Shorthand.Json.Printer
import Shorthand.Json.Reader
import Shorthand.Lorem
import Shorthand.Lorem.Note
import Shorthand.Lorem.Vocabulary
import Shorthand.Note
import Shorthand.Number.Binary64
import Shorthand.Number.Shortest
import Shorthand.Number.Word
import Shorthand.Options
import Shorthand.Pattern
import Shorthand.Pattern.Expr
import Shorthand.Pattern.Reader
import Shorthand.Profile
import Shorthand.Proofs.Configuration
import Shorthand.Proofs.Css
import Shorthand.Proofs.Dict
import Shorthand.Proofs.Except
import Shorthand.Proofs.Expander.Forms
import Shorthand.Proofs.Expander.Siblings
import Shorthand.Proofs.Html.Element
import Shorthand.Proofs.Html.Format
import Shorthand.Proofs.Html.Parser
import Shorthand.Proofs.Html.Pretty
import Shorthand.Proofs.Html.Spelling
import Shorthand.Proofs.Html.Stages
import Shorthand.Proofs.Html.Tabstops
import Shorthand.Proofs.Html.Transform
import Shorthand.Proofs.Json.Decode
import Shorthand.Proofs.Json.LastValue
import Shorthand.Proofs.Json.LastWriter
import Shorthand.Proofs.Json.Merge
import Shorthand.Proofs.Json.Nulls
import Shorthand.Proofs.Json.Ordered
import Shorthand.Proofs.Json.Reader
import Shorthand.Proofs.Json.Regroup
import Shorthand.Proofs.Json.Remerge
import Shorthand.Proofs.Last
import Shorthand.Proofs.Lorem.Name
import Shorthand.Proofs.Lorem.Text
import Shorthand.Proofs.Options
import Shorthand.Proofs.Profile
import Shorthand.Proofs.Profile.Dump
import Shorthand.Proofs.Profile.Trial
import Shorthand.Proofs.Settings.Applicable
import Shorthand.Proofs.Settings.Dump
import Shorthand.Proofs.Settings.Layering
import Shorthand.Proofs.Settings.Load
import Shorthand.Proofs.Settings.Ordered
import Shorthand.Proofs.Settings.Selection
import Shorthand.Proofs.Settings.Snippets
import Shorthand.Proofs.Settings.Values
import Shorthand.Proofs.Snippet.Names
import Shorthand.Proofs.Snippet.Patterns
import Shorthand.Proofs.Snippet.Precedence
import Shorthand.Proofs.Snippet.Stack
import Shorthand.Proofs.Text.Split
import Shorthand.Proofs.Tree.Json
import Shorthand.Proofs.Tree.Shape
import Shorthand.Proofs.Tree.Visit
import Shorthand.Proofs.Tree.Walk
import Shorthand.Proofs.Yaml.Document
import Shorthand.Settings
import Shorthand.Settings.Json
import Shorthand.Settings.Load
import Shorthand.Snippet.Basic
import Shorthand.Snippet.Builtin
import Shorthand.Snippet.Builtin.Css
import Shorthand.Snippet.Builtin.Html
import Shorthand.Snippet.Builtin.Xsl
import Shorthand.Snippet.Layer
import Shorthand.Snippet.Registry
import Shorthand.Snippet.Source
import Shorthand.Text.Blank
import Shorthand.Text.Case
import Shorthand.Text.CaseTable
import Shorthand.Text.CharClass
import Shorthand.Text.Digit
import Shorthand.Text.PrintTable
import Shorthand.Text.Quoted
import Shorthand.Text.Split
import Shorthand.Tree.Basic
import Shorthand.Tree.Json
import Shorthand.Tree.Walk
import Shorthand.Yaml.Cursor
import Shorthand.Yaml.Document
import Shorthand.Yaml.Node
import Shorthand.Yaml.Node.Builder
import Shorthand.Yaml.Scalar.Block
import Shorthand.Yaml.Scalar.Plain
import Shorthand.Yaml.Scalar.Quoted
import Shorthand.Yaml.Scalar.Value
import Shorthand.Yaml.Tag
import Shorthand.Yaml.Token
import Shorthand.Yaml.Token.Lexer
