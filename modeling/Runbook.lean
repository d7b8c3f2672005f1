import Runbook.Auth
import Runbook.Calendar
import Runbook.Check
import Runbook.Corpus
import Runbook.Dict
import Runbook.Engine.Run
import Runbook.Engine.State
import Runbook.Fault
import Runbook.FuzzValue
import Runbook.History
import Runbook.Http.Answer
import Runbook.Http.Client
import Runbook.Http.Cookie
import Runbook.Http.Header
import Runbook.Http.Host
import Runbook.Http.HostTable
import Runbook.Http.Punycode
import Runbook.Http.Recording
import Runbook.Http.Request
import Runbook.Http.Step
import Runbook.Http.Url
import Runbook.Http.UrlFault
import Runbook.Json
import Runbook.Json.Reading
import Runbook.Json.Token
import Runbook.Json.Writing
import Runbook.Main
import Runbook.Notice
import Runbook.Number.Binary64
import Runbook.Number.Layout
import Runbook.Number.Numeral
import Runbook.Outcome
import Runbook.Params
import Runbook.PathTemplate
import Runbook.Payload
import Runbook.Plan
import Runbook.PlanFile.Chunk
import Runbook.PlanFile.Writing
import Runbook.Program
import Runbook.Proofs.Corpus.Appending
import Runbook.Proofs.Corpus.Codec
import Runbook.Proofs.Corpus.Evolution
import Runbook.Proofs.Corpus.Files
import Runbook.Proofs.Corpus.Index
import Runbook.Proofs.Corpus.Metadata
import Runbook.Proofs.Corpus.Records
import Runbook.Proofs.Dependence
import Runbook.Proofs.Dict
import Runbook.Proofs.Dict.Merging
import Runbook.Proofs.Engine.Abort
import Runbook.Proofs.Engine.Act
import Runbook.Proofs.Engine.Activation
import Runbook.Proofs.Engine.Call
import Runbook.Proofs.Engine.Counting
import Runbook.Proofs.Engine.Declarations
import Runbook.Proofs.Engine.Deed
import Runbook.Proofs.Engine.Defaults
import Runbook.Proofs.Engine.Ending
import Runbook.Proofs.Engine.Execution
import Runbook.Proofs.Engine.Modes
import Runbook.Proofs.Engine.Nesting
import Runbook.Proofs.Engine.Past
import Runbook.Proofs.Engine.Performs
import Runbook.Proofs.Engine.Records
import Runbook.Proofs.Engine.Recursion
import Runbook.Proofs.Engine.Replay
import Runbook.Proofs.Engine.SchemaScope
import Runbook.Proofs.Engine.Session
import Runbook.Proofs.Engine.Skipping
import Runbook.Proofs.Engine.Trail
import Runbook.Proofs.Engine.Verdict
import Runbook.Proofs.FailureIndex
import Runbook.Proofs.Fault
import Runbook.Proofs.FuzzValue
import Runbook.Proofs.Http.Credentials
import Runbook.Proofs.Json.Blank
import Runbook.Proofs.Json.Number
import Runbook.Proofs.Json.Reading
import Runbook.Proofs.Json.Refusing
import Runbook.Proofs.Json.Textual
import Runbook.Proofs.Json.Token
import Runbook.Proofs.Json.Writing
import Runbook.Proofs.Loop
import Runbook.Proofs.Navigation
import Runbook.Proofs.Number.Binary64
import Runbook.Proofs.Params
import Runbook.Proofs.PathTemplate
import Runbook.Proofs.Payload
import Runbook.Proofs.Plan
import Runbook.Proofs.PlanFile.Clash
import Runbook.Proofs.PlanFile.Entries
import Runbook.Proofs.PlanFile.Order
import Runbook.Proofs.PlanFile.Rereading
import Runbook.Proofs.PlanFile.RoundTrip
import Runbook.Proofs.PlanFile.Separators
import Runbook.Proofs.PlanFile.Splitting
import Runbook.Proofs.PlanFile.Step
import Runbook.Proofs.PlanFile.Taking
import Runbook.Proofs.Precedence
import Runbook.Proofs.Program
import Runbook.Proofs.Reference
import Runbook.Proofs.ReferenceFault
import Runbook.Proofs.Replay
import Runbook.Proofs.Resolution
import Runbook.Proofs.Screen.Markup
import Runbook.Proofs.Screen.Report
import Runbook.Proofs.StepFault
import Runbook.Proofs.Storage
import Runbook.Proofs.Substitution
import Runbook.Proofs.Test
import Runbook.Proofs.Text.Case
import Runbook.Proofs.Text.Lines
import Runbook.Proofs.Text.Utf8
import Runbook.Proofs.Value.Json
import Runbook.Proofs.Value.Key
import Runbook.Proofs.Value.Text
import Runbook.Proofs.Yaml.Construct
import Runbook.Proofs.Yaml.Node
import Runbook.Proofs.Yaml.Remark
import Runbook.Proofs.Yaml.Surrogate
import Runbook.Proofs.Yaml.Writing
import Runbook.Reference
import Runbook.Run
import Runbook.Screen.Emoji
import Runbook.Screen.EmojiTable
import Runbook.Screen.Layout
import Runbook.Screen.Markup
import Runbook.Screen.Report
import Runbook.Screen.Width
import Runbook.Screen.WidthTable
import Runbook.Screen.Wrap
import Runbook.Settings
import Runbook.Settings.EnvFile
import Runbook.Storage
import Runbook.Suite
import Runbook.Test
import Runbook.Text.Base64
import Runbook.Text.Blank
import Runbook.Text.Case
import Runbook.Text.CaseTable
import Runbook.Text.Charset
import Runbook.Text.Digit
import Runbook.Text.Percent
import Runbook.Text.Quoted
import Runbook.Text.Unprintable
import Runbook.Text.Utf8
import Runbook.Value
import Runbook.Value.Json
import Runbook.Value.Text
import Runbook.Yaml.Construct
import Runbook.Yaml.Fault
import Runbook.Yaml.Lexer
import Runbook.Yaml.Node
import Runbook.Yaml.Scalar
import Runbook.Yaml.Surrogate
import Runbook.Yaml.Tag
import Runbook.Yaml.Token
import Runbook.Yaml.Writing
