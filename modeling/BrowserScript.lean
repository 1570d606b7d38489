import BrowserScript.Text.Whitespace
import BrowserScript.Text.Lines
import BrowserScript.Text.Quoted
import BrowserScript.Text.Numeral
import BrowserScript.Text.Ranges
import BrowserScript.Text.Columns.Width
import BrowserScript.Text.Columns.Emoji
import BrowserScript.Text.Columns.Ligature
import BrowserScript.Text.Columns
import BrowserScript.Fields
import BrowserScript.Strategy
import BrowserScript.CommandKind
import BrowserScript.Selector
import BrowserScript.Token
import BrowserScript.Params
import BrowserScript.LineError
import BrowserScript.Command
import BrowserScript.Canonical
import BrowserScript.Script
import BrowserScript.Script.Format
import BrowserScript.Script.Load
import BrowserScript.Value
import BrowserScript.Value.Json
import BrowserScript.Value.Yaml.Spelling
import BrowserScript.Value.Yaml.Scalar
import BrowserScript.Value.Yaml
import BrowserScript.Encoding
import BrowserScript.Log
import BrowserScript.Log.Reading
import BrowserScript.Workspace
import BrowserScript.Listing.Table
import BrowserScript.Listing
import BrowserScript.Settings.Toml.Quoted
import BrowserScript.Settings.Toml.Key
import BrowserScript.Settings.Toml.Moment
import BrowserScript.Settings.Toml.Number
import BrowserScript.Settings.Toml.Table
import BrowserScript.Settings.Toml.Value
import BrowserScript.Settings.Toml
import BrowserScript.Settings
import BrowserScript.CommandLine.Request
import BrowserScript.CommandLine.Level
import BrowserScript.CommandLine.Arguments
import BrowserScript.CommandLine.Outcome
import BrowserScript.CommandLine.Check
import BrowserScript.CommandLine.Show
import BrowserScript.CommandLine.Format
import BrowserScript.CommandLine.Run
import BrowserScript.Main
import BrowserScript.Proofs.Fields.Scanning
import BrowserScript.Proofs.Fields.Trimming
import BrowserScript.Proofs.Fields.Written
import BrowserScript.Proofs.Token.Reading
import BrowserScript.Proofs.Command.Building
import BrowserScript.Proofs.Command.CanonicalLine
import BrowserScript.Proofs.Command.RoundTrip
import BrowserScript.Proofs.Text.Lines
import BrowserScript.Proofs.Script.Reading
import BrowserScript.Proofs.Script.Formatting
import BrowserScript.Proofs.Script.FinalReturn
import BrowserScript.Proofs.Fields.LastCharacter
import BrowserScript.Proofs.Token.LastField
import BrowserScript.Proofs.Command.LastField
import BrowserScript.Proofs.Script.LineByLine
import BrowserScript.Proofs.Fields.Silent
import BrowserScript.Proofs.Token.Places
import BrowserScript.Proofs.Command.Grammar
import BrowserScript.Proofs.Token.Image
import BrowserScript.Proofs.Script.Policies
import BrowserScript.Proofs.Script.Composition
import BrowserScript.Proofs.Script.LineEndings
import BrowserScript.Proofs.Workspace.Writing
import BrowserScript.Proofs.CommandLine.FormatModes
import BrowserScript.Proofs.Selector.Encodings
import BrowserScript.Proofs.Value.JsonText
import BrowserScript.Proofs.Value.YamlScalar
import BrowserScript.Proofs.Listing.Layout
import BrowserScript.Proofs.Script.Lossless
import BrowserScript.Proofs.CommandLine.Reports
import BrowserScript.Proofs.CommandLine.StepList
import BrowserScript.Proofs.CommandLine.CheckAndParse
import BrowserScript.Proofs.Selector.Flatness
import BrowserScript.Proofs.Command.AnyTokens
import BrowserScript.Proofs.Fields.Marks
import BrowserScript.Proofs.Fields.Escapes
import BrowserScript.Proofs.Token.Notations
import BrowserScript.Proofs.Token.Noise
import BrowserScript.Proofs.Fields.ClosedEnd
import BrowserScript.Proofs.Command.AppendedParam
import BrowserScript.Proofs.Token.Surroundings
import BrowserScript.Proofs.Script.Shape
import BrowserScript.Proofs.Script.Accounting
import BrowserScript.Proofs.CommandLine.ManyFiles
import BrowserScript.Proofs.Command.WrittenParams
import BrowserScript.Proofs.Selector.Linking
