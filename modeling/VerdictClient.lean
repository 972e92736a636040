import VerdictClient.Clock
import VerdictClient.CommandLine
import VerdictClient.CommandLine.Flag
import VerdictClient.CommandLine.Options
import VerdictClient.CommandLine.Pool
import VerdictClient.CommandLine.Usage
import VerdictClient.Config
import VerdictClient.Config.Load
import VerdictClient.Correlator
import VerdictClient.Correlator.Timed
import VerdictClient.Decimal
import VerdictClient.Decimal.Integer
import VerdictClient.Decimal.Shortest
import VerdictClient.Digest
import VerdictClient.Digest.Sha256
import VerdictClient.Error
import VerdictClient.Failure
import VerdictClient.Files
import VerdictClient.Guid
import VerdictClient.Http
import VerdictClient.Json
import VerdictClient.Json.Parser
import VerdictClient.Json.Token
import VerdictClient.Log
import VerdictClient.Main
import VerdictClient.Message
import VerdictClient.Message.Decode
import VerdictClient.Message.Encode
import VerdictClient.Message.Field
import VerdictClient.Receiver
import VerdictClient.Receiver.Loop
import VerdictClient.Session
import VerdictClient.Session.Ask
import VerdictClient.Session.Close
import VerdictClient.Session.Connect
import VerdictClient.Session.Conversation
import VerdictClient.Session.Event
import VerdictClient.Session.Schedule
import VerdictClient.Session.Settings
import VerdictClient.Text
import VerdictClient.Text.Base64
import VerdictClient.Text.Cased
import VerdictClient.Text.Class
import VerdictClient.Text.Encoding
import VerdictClient.Text.LowerCase
import VerdictClient.Text.Quoted
import VerdictClient.Text.Similar
import VerdictClient.Text.Unprintable
import VerdictClient.Text.Utf8
import VerdictClient.Timestamp
import VerdictClient.Token
import VerdictClient.Transport
import VerdictClient.Upload
import VerdictClient.Value
import VerdictClient.Yaml
import VerdictClient.Yaml.Cursor
import VerdictClient.Yaml.Event
import VerdictClient.Yaml.Graph
import VerdictClient.Yaml.Meaning
import VerdictClient.Yaml.Merge
import VerdictClient.Yaml.Scalar
import VerdictClient.Yaml.Token
import VerdictClient.Yaml.Token.Name
import VerdictClient.Yaml.Token.Scalar
import VerdictClient.Yaml.Token.Scan
import VerdictClient.Proofs.Correlator
import VerdictClient.Proofs.Correlator.Commute
import VerdictClient.Proofs.Session.Run
import VerdictClient.Proofs.Session.Advance
import VerdictClient.Proofs.Session.Manage
import VerdictClient.Proofs.Session.Step
import VerdictClient.Proofs.Session.Acts
import VerdictClient.Proofs.Session.Tickets
import VerdictClient.Proofs.Session.Release
import VerdictClient.Proofs.Session.Isolation
import VerdictClient.Proofs.Session.Handshake
import VerdictClient.Proofs.Session.Status
import VerdictClient.Proofs.Session.Chronicle
import VerdictClient.Proofs.Session.Log
import VerdictClient.Proofs.Session.Answers
import VerdictClient.Proofs.Session.Undisturbed
import VerdictClient.Proofs.Session.Deeds
import VerdictClient.Proofs.Session.Course
import VerdictClient.Proofs.Session.Uploads
import VerdictClient.Proofs.Session.Connection
import VerdictClient.Proofs.Receiver
import VerdictClient.Proofs.Session.Reading
import VerdictClient.Proofs.Session.Connecting
import VerdictClient.Proofs.Session.Lifecycle
import VerdictClient.Proofs.Receiver.Loop
import VerdictClient.Proofs.Session.Shut
import VerdictClient.Proofs.Session.EndOfReading
import VerdictClient.Proofs.Session.Aftermath
import VerdictClient.Proofs.Session.Closing
import VerdictClient.Proofs.Correlator.Leads
import VerdictClient.Proofs.Correlator.Timed
import VerdictClient.Proofs.Receiver.Routing
import VerdictClient.Proofs.Session.Loss
import VerdictClient.Proofs.Session.Presenting
import VerdictClient.Proofs.Session.Authentication
import VerdictClient.Proofs.Json.Spelling
import VerdictClient.Proofs.Json.Reading
import VerdictClient.Proofs.Message.Members
import VerdictClient.Proofs.Message.Writing
import VerdictClient.Proofs.Message.RoundTrip
import VerdictClient.Proofs.Json.Leading
import VerdictClient.Proofs.Message.Agreement
import VerdictClient.Proofs.Session.Wire
import VerdictClient.Proofs.Session.Discipline
import VerdictClient.Proofs.Session.Refusal
import VerdictClient.Proofs.Files
import VerdictClient.Proofs.Session.Likeness
import VerdictClient.Proofs.Session.TwoRuns
import VerdictClient.Proofs.Session.FileOrBuffer
import VerdictClient.Proofs.Session.Secrets
import VerdictClient.Proofs.Session.Calls
import VerdictClient.Proofs.Session.Scene
import VerdictClient.Proofs.Session.Settling
import VerdictClient.Proofs.Session.Calm
import VerdictClient.Proofs.Session.Needs
import VerdictClient.Proofs.Session.Responding
import VerdictClient.Proofs.CommandLine.Pool
import VerdictClient.Proofs.CommandLine.Table
import VerdictClient.Proofs.CommandLine.Course
import VerdictClient.Proofs.CommandLine.Working
import VerdictClient.Proofs.CommandLine.Reporting
import VerdictClient.Proofs.Correlator.Race
import VerdictClient.Proofs.Correlator.Independence
import VerdictClient.Proofs.Json.Extent
import VerdictClient.Proofs.Text.Detection
import VerdictClient.Proofs.Json.Quotation
import VerdictClient.Proofs.Json.Scanning
import VerdictClient.Proofs.Json.Texts
import VerdictClient.Proofs.Message.Octets
import VerdictClient.Proofs.Message.Layout
import VerdictClient.Proofs.Message.Variants
import VerdictClient.Proofs.Transport
import VerdictClient.Proofs.Transport.Closing
import VerdictClient.Proofs.Token
import VerdictClient.Proofs.Receiver.Waiters
import VerdictClient.Proofs.Config
import VerdictClient.Proofs.Text.Case
import VerdictClient.Proofs.Config.Load
import VerdictClient.Proofs.Digest
import VerdictClient.Proofs.Session.Digests
