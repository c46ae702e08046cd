import SchemaAssist.Text.Case
import SchemaAssist.Text.Blank
import SchemaAssist.Text.Digit
import SchemaAssist.Text.Printable
import SchemaAssist.Number.Binary64
import SchemaAssist.Number.Shortest
import SchemaAssist.Text.Base64
import SchemaAssist.Text.Width
import SchemaAssist.Fault
import SchemaAssist.Number.Reading
import SchemaAssist.Completion.Placement
import SchemaAssist.Completion.References
import SchemaAssist.Completion.Suggestion
import SchemaAssist.Completion.Synthesis
import SchemaAssist.Json.Basic
import SchemaAssist.Json.Parser
import SchemaAssist.Json.Printer
import SchemaAssist.Yaml.Cursor
import SchemaAssist.Yaml.Scalar
import SchemaAssist.Yaml.Token
import SchemaAssist.Yaml.Timestamp
import SchemaAssist.Yaml.Value
import SchemaAssist.Yaml.Stream
import SchemaAssist.Yaml.Load
import SchemaAssist.Schema.Extract
import SchemaAssist.Completion.Engine
import SchemaAssist.Log.Router
import SchemaAssist.Service.Handler
import SchemaAssist.Session
import SchemaAssist.Editor.Buffer
import SchemaAssist.Terminal.Emoji
import SchemaAssist.Terminal.Markup
import SchemaAssist.Terminal.Wrap
import SchemaAssist.Terminal.Table
import SchemaAssist.Terminal.Tree
import SchemaAssist.Text.Similar
import SchemaAssist.Cli.Arguments
import SchemaAssist.Cli.Command
import SchemaAssist.Cli.Program
import SchemaAssist.Main
import SchemaAssist.Proofs.Lines
import SchemaAssist.Proofs.LineGrammar
import SchemaAssist.Proofs.Placement
import SchemaAssist.Proofs.SchemaTree
import SchemaAssist.Proofs.Offers
import SchemaAssist.Proofs.Locality
import SchemaAssist.Proofs.FollowUp
import SchemaAssist.Proofs.SnapBack
import SchemaAssist.Proofs.JsonText
import SchemaAssist.Proofs.JsonReading
import SchemaAssist.Proofs.JsonLimit
import SchemaAssist.Proofs.ServiceLoop
import SchemaAssist.Proofs.SessionRuns
import SchemaAssist.Proofs.Wire
import SchemaAssist.Proofs.YamlScanning
import SchemaAssist.Proofs.YamlReading
import SchemaAssist.Proofs.SchemaExtraction
import SchemaAssist.Proofs.SchemaFailure
import SchemaAssist.Proofs.Cursors
import SchemaAssist.Proofs.BlankLines
import SchemaAssist.Proofs.Reindenting
import SchemaAssist.Proofs.SchemaSites
import SchemaAssist.Proofs.SchemaMeaning
import SchemaAssist.Proofs.SchemaPaths
import SchemaAssist.Proofs.Responses
import SchemaAssist.Proofs.Hierarchy
import SchemaAssist.Proofs.References
import SchemaAssist.Proofs.LineEndings
import SchemaAssist.Proofs.YamlWords
import SchemaAssist.Proofs.YamlOutlines
import SchemaAssist.Proofs.YamlOutlineNodes
import SchemaAssist.Proofs.ChoiceWords
import SchemaAssist.Proofs.EditorMenu
import SchemaAssist.Proofs.EditorCursor
import SchemaAssist.Proofs.Lowercase
import SchemaAssist.Proofs.Typing
import SchemaAssist.Proofs.IntegerText
import SchemaAssist.Proofs.Parameters
import SchemaAssist.Proofs.FileStore
import SchemaAssist.Proofs.LogRouting
import SchemaAssist.Proofs.DefaultColumn
