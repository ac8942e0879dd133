import ChaincodeConsole.Chat.Dialogue
import ChaincodeConsole.Chat.Exchange
import ChaincodeConsole.Chat.FileList
import ChaincodeConsole.Chat.Message
import ChaincodeConsole.Chat.Session
import ChaincodeConsole.Chat.ToolCall
import ChaincodeConsole.Chat.Turn
import ChaincodeConsole.Command.Arguments
import ChaincodeConsole.Command.Basic
import ChaincodeConsole.Command.Entry
import ChaincodeConsole.Command.Environment
import ChaincodeConsole.Command.Places
import ChaincodeConsole.Command.Report
import ChaincodeConsole.Command.Run
import ChaincodeConsole.Decimal.Binary64
import ChaincodeConsole.Decimal.Layout
import ChaincodeConsole.Decimal.Shortest
import ChaincodeConsole.Disk
import ChaincodeConsole.Event
import ChaincodeConsole.Json.Basic
import ChaincodeConsole.Json.Completion
import ChaincodeConsole.Json.Fault
import ChaincodeConsole.Json.Numeral
import ChaincodeConsole.Json.Outline
import ChaincodeConsole.Json.Preview
import ChaincodeConsole.Json.Printer
import ChaincodeConsole.Json.Reader
import ChaincodeConsole.Json.Shape
import ChaincodeConsole.Main
import ChaincodeConsole.Proofs.Chat.Answers
import ChaincodeConsole.Proofs.Chat.Arguments
import ChaincodeConsole.Proofs.Chat.Calls
import ChaincodeConsole.Proofs.Chat.Changes
import ChaincodeConsole.Proofs.Chat.Exchanges
import ChaincodeConsole.Proofs.Chat.Fragments
import ChaincodeConsole.Proofs.Chat.Growth
import ChaincodeConsole.Proofs.Chat.Histories
import ChaincodeConsole.Proofs.Chat.Lifecycle
import ChaincodeConsole.Proofs.Chat.Listings
import ChaincodeConsole.Proofs.Chat.Marks
import ChaincodeConsole.Proofs.Chat.Parts
import ChaincodeConsole.Proofs.Chat.Placeholders
import ChaincodeConsole.Proofs.Chat.Readings
import ChaincodeConsole.Proofs.Chat.Recording
import ChaincodeConsole.Proofs.Chat.Reports
import ChaincodeConsole.Proofs.Chat.Runs
import ChaincodeConsole.Proofs.Chat.Sessions
import ChaincodeConsole.Proofs.Chat.Threads
import ChaincodeConsole.Proofs.Chat.Turns
import ChaincodeConsole.Proofs.Command.Asking
import ChaincodeConsole.Proofs.Command.Saving
import ChaincodeConsole.Proofs.Decimal.Range
import ChaincodeConsole.Proofs.Json.Arrivals
import ChaincodeConsole.Proofs.Json.Completing
import ChaincodeConsole.Proofs.Json.Documents
import ChaincodeConsole.Proofs.Json.Endings
import ChaincodeConsole.Proofs.Json.Escapes
import ChaincodeConsole.Proofs.Json.Faithful
import ChaincodeConsole.Proofs.Json.Fits
import ChaincodeConsole.Proofs.Json.Members
import ChaincodeConsole.Proofs.Json.Moves
import ChaincodeConsole.Proofs.Json.Nesting
import ChaincodeConsole.Proofs.Json.Outlines
import ChaincodeConsole.Proofs.Json.Paths
import ChaincodeConsole.Proofs.Json.Previews
import ChaincodeConsole.Proofs.Json.Printing
import ChaincodeConsole.Proofs.Json.Records
import ChaincodeConsole.Proofs.Json.Runs
import ChaincodeConsole.Proofs.Json.Scans
import ChaincodeConsole.Proofs.Json.Tokens
import ChaincodeConsole.Proofs.Server.Addresses
import ChaincodeConsole.Proofs.Server.Disks
import ChaincodeConsole.Proofs.Server.Downloads
import ChaincodeConsole.Proofs.Server.Identifiers
import ChaincodeConsole.Proofs.Settings.Loading
import ChaincodeConsole.Proofs.Stream.Decoding
import ChaincodeConsole.Proofs.Stream.Envelopes
import ChaincodeConsole.Proofs.Stream.Lines
import ChaincodeConsole.Proofs.Stream.Payloads
import ChaincodeConsole.Proofs.Stream.Wire
import ChaincodeConsole.Proofs.Terminal.Lines
import ChaincodeConsole.Proofs.Terminal.Screens
import ChaincodeConsole.Proofs.Terminal.Ticks
import ChaincodeConsole.Proofs.Text.Decoding
import ChaincodeConsole.Proofs.Text.Encoding
import ChaincodeConsole.Proofs.Text.Trimming
import ChaincodeConsole.Proofs.Toml.Keys
import ChaincodeConsole.Proofs.Toml.Sections
import ChaincodeConsole.Proofs.Tool.Breaks
import ChaincodeConsole.Proofs.Tool.Truncation
import ChaincodeConsole.Proofs.Transcript.Reading
import ChaincodeConsole.Proofs.Transcript.Records
import ChaincodeConsole.Proofs.Transcript.Writing
import ChaincodeConsole.Server.Commit
import ChaincodeConsole.Server.Conversation
import ChaincodeConsole.Server.Download
import ChaincodeConsole.Server.EventStream
import ChaincodeConsole.Server.Host
import ChaincodeConsole.Server.Label
import ChaincodeConsole.Server.ProjectFile
import ChaincodeConsole.Server.Reply
import ChaincodeConsole.Server.Request
import ChaincodeConsole.Server.Url
import ChaincodeConsole.Settings.Basic
import ChaincodeConsole.Settings.LogFilter
import ChaincodeConsole.Settings.Printer
import ChaincodeConsole.Settings.Reading
import ChaincodeConsole.Stream.Decoder
import ChaincodeConsole.Stream.Line
import ChaincodeConsole.Terminal
import ChaincodeConsole.Text.Base64
import ChaincodeConsole.Text.Blank
import ChaincodeConsole.Text.Composed
import ChaincodeConsole.Text.Direction
import ChaincodeConsole.Text.Folding
import ChaincodeConsole.Text.Hex
import ChaincodeConsole.Text.Hidden
import ChaincodeConsole.Text.Integer
import ChaincodeConsole.Text.Joining
import ChaincodeConsole.Text.Letter
import ChaincodeConsole.Text.Line
import ChaincodeConsole.Text.Mark
import ChaincodeConsole.Text.Pattern
import ChaincodeConsole.Text.Percent
import ChaincodeConsole.Text.Punycode
import ChaincodeConsole.Text.Quoted
import ChaincodeConsole.Text.Table
import ChaincodeConsole.Text.Utf8
import ChaincodeConsole.Time.Date
import ChaincodeConsole.Time.Timestamp
import ChaincodeConsole.Toml.Basic
import ChaincodeConsole.Toml.Document
import ChaincodeConsole.Toml.Printer
import ChaincodeConsole.Toml.Scalar
import ChaincodeConsole.Toml.Section
import ChaincodeConsole.Toml.Text
import ChaincodeConsole.Tool.Display
import ChaincodeConsole.Tool.Kind
import ChaincodeConsole.Tool.View
import ChaincodeConsole.Transcript.DayFile
import ChaincodeConsole.Transcript.Record
import ChaincodeConsole.Uuid
