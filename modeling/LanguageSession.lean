import LanguageSession.Answer
import LanguageSession.Association
import LanguageSession.Callback
import LanguageSession.Child.Basic
import LanguageSession.Child.Pipe
import LanguageSession.Child.Readers
import LanguageSession.Client.Scenario
import LanguageSession.Client.Session
import LanguageSession.Client.Step
import LanguageSession.Client.World
import LanguageSession.CommandLine.Call
import LanguageSession.CommandLine.Options
import LanguageSession.CommandLine.Report
import LanguageSession.CommandLine.Run
import LanguageSession.CommandLine.Usage
import LanguageSession.CommandWords
import LanguageSession.Documents
import LanguageSession.Duration
import LanguageSession.Events.Basic
import LanguageSession.Events.Script
import LanguageSession.Failure
import LanguageSession.Fault
import LanguageSession.FilePath
import LanguageSession.FileTree
import LanguageSession.Frame.Encode
import LanguageSession.Frame.Header
import LanguageSession.Frame.Scan
import LanguageSession.Journal
import LanguageSession.Json.Access
import LanguageSession.Json.Basic
import LanguageSession.Json.Display
import LanguageSession.Json.Key
import LanguageSession.Json.Reader
import LanguageSession.Json.Writer
import LanguageSession.Languages
import LanguageSession.Log.Clock
import LanguageSession.Log.Files
import LanguageSession.Log.Parts
import LanguageSession.Log.Record
import LanguageSession.Main
import LanguageSession.Message
import LanguageSession.Number.Decimal
import LanguageSession.Number.Double
import LanguageSession.Number.Numeral
import LanguageSession.Proofs.Frame.Chunks
import LanguageSession.Proofs.Frame.Header
import LanguageSession.Proofs.Text.Digits
import LanguageSession.Registry.Basic
import LanguageSession.Registry.Script
import LanguageSession.Run
import LanguageSession.Server
import LanguageSession.Settings
import LanguageSession.Terminal.Display
import LanguageSession.Terminal.Escape
import LanguageSession.Terminal.Output
import LanguageSession.Terminal.Plain
import LanguageSession.Text.Alphanumeric
import LanguageSession.Text.Basic
import LanguageSession.Text.Blank
import LanguageSession.Text.Case
import LanguageSession.Text.CaseTable
import LanguageSession.Text.Digit
import LanguageSession.Text.Lossless
import LanguageSession.Text.Printable
import LanguageSession.Text.Similarity
import LanguageSession.Text.Utf8
import LanguageSession.Proofs.Json.Numbers
import LanguageSession.Proofs.Json.Strings
import LanguageSession.Proofs.Text.Utf8
import LanguageSession.Proofs.Json.Texts
import LanguageSession.Proofs.Json.Values
import LanguageSession.Proofs.Json.Spaced
import LanguageSession.Proofs.Frame.RoundTrip
import LanguageSession.Proofs.Run
import LanguageSession.Proofs.Client.History
import LanguageSession.Proofs.Client.Sound
import LanguageSession.Proofs.Client.Operations
import LanguageSession.Proofs.Client.Handlers
import LanguageSession.Proofs.Client.Rest
import LanguageSession.Proofs.Client.Matching
import LanguageSession.Proofs.Client.Responses
import LanguageSession.Proofs.Client.Streams
import LanguageSession.Proofs.Client.Alike
import LanguageSession.Proofs.Client.Calls
import LanguageSession.Proofs.Client.Unawaited
import LanguageSession.Proofs.Client.Reads
import LanguageSession.Proofs.Client.Notes
import LanguageSession.Proofs.Client.Restarts
import LanguageSession.Proofs.Client.Lifecycle
import LanguageSession.Proofs.Client.Conversation
import LanguageSession.Proofs.Client.Refusal
import LanguageSession.Proofs.Json.Surrogates
import LanguageSession.Proofs.Client.Roots
import LanguageSession.Proofs.Client.Answers
import LanguageSession.Proofs.Client.Endings
import LanguageSession.Proofs.Client.Unbegun
import LanguageSession.Proofs.Client.Afresh
import LanguageSession.Proofs.Client.Closings
import LanguageSession.Proofs.Client.Completions
import LanguageSession.Proofs.Client.Notices
import LanguageSession.Proofs.Client.Stops
import LanguageSession.Proofs.Client.Versions
import LanguageSession.Proofs.Client.Announcements
import LanguageSession.Proofs.Client.States
import LanguageSession.Proofs.Client.Strays
import LanguageSession.Proofs.Frame.Rechunking
import LanguageSession.Proofs.Client.Audience
import LanguageSession.Proofs.CommandLine.Conversations
import LanguageSession.Proofs.Client.Overruling
import LanguageSession.Proofs.Text.Encoding
import LanguageSession.Proofs.Frame.Encoding
import LanguageSession.Proofs.Frame.Decomposition
import LanguageSession.Proofs.Client.Farewells
import LanguageSession.Proofs.Client.Faults
import LanguageSession.Proofs.Client.Unencodable
import LanguageSession.Proofs.Traversal
import LanguageSession.Proofs.Languages.Registration
import LanguageSession.Proofs.Languages.Overrides
import LanguageSession.Proofs.Terminal.Diagnostics
import LanguageSession.Proofs.Events.Annals
import LanguageSession.Proofs.Events.Deeds
import LanguageSession.Proofs.Events.Depth
import LanguageSession.Proofs.Events.Emissions
import LanguageSession.Proofs.Languages.Choice
import LanguageSession.Proofs.Text.Ascii
import LanguageSession.Proofs.Child.Lines
import LanguageSession.Proofs.Text.Splitting
import LanguageSession.Proofs.Text.Plain
import LanguageSession.Proofs.Association
import LanguageSession.Proofs.FilePath
import LanguageSession.Proofs.Child.Readers
import LanguageSession.Proofs.Log.Files
import LanguageSession.Proofs.Log.Lines
import LanguageSession.Proofs.Text.Trimming
import LanguageSession.Proofs.Number.Numeral
import LanguageSession.Proofs.Frame.ContentLength
import LanguageSession.Proofs.Json.Keys
import LanguageSession.Proofs.Callback
import LanguageSession.Proofs.Registry.Map
import LanguageSession.Proofs.Registry.Steps
import LanguageSession.Proofs.Registry.Refinement
import LanguageSession.Proofs.Log.Parts
import LanguageSession.Proofs.Log.Calls
import LanguageSession.Proofs.Registry
