import AlertLedger.Alert.Event
import AlertLedger.Alert.Query
import AlertLedger.Alert.State
import AlertLedger.Alert.Status
import AlertLedger.Alert.Transition
import AlertLedger.Authority
import AlertLedger.Authority.Memory
import AlertLedger.Authority.Scripted
import AlertLedger.Command
import AlertLedger.Command.Arguments
import AlertLedger.Command.Report
import AlertLedger.Command.Run
import AlertLedger.Config
import AlertLedger.Config.Json
import AlertLedger.Config.Load
import AlertLedger.Config.Yaml
import AlertLedger.Encoding.Alert
import AlertLedger.Encoding.Event
import AlertLedger.Encoding.Operation
import AlertLedger.Fault
import AlertLedger.Files
import AlertLedger.Fingerprint
import AlertLedger.Json.Number
import AlertLedger.Json.Record
import AlertLedger.Json.Token
import AlertLedger.Json.Value
import AlertLedger.Json.Written
import AlertLedger.LabelSet
import AlertLedger.Log.Event
import AlertLedger.Log.Filter
import AlertLedger.Log.Level
import AlertLedger.Log.Line
import AlertLedger.Log.Pattern
import AlertLedger.Main
import AlertLedger.Metrics
import AlertLedger.Metrics.Exposition
import AlertLedger.Operation
import AlertLedger.Operation.Kind
import AlertLedger.Operation.Stream
import AlertLedger.Replay
import AlertLedger.Sink
import AlertLedger.Sink.Chosen
import AlertLedger.Sink.Recording
import AlertLedger.Sink.Stateless
import AlertLedger.SortedMap
import AlertLedger.Stats
import AlertLedger.Step
import AlertLedger.Store
import AlertLedger.Store.File
import AlertLedger.Store.Image
import AlertLedger.Store.Tables
import AlertLedger.Text.Align
import AlertLedger.Text.Alphanumeric
import AlertLedger.Text.Blank
import AlertLedger.Text.Hex
import AlertLedger.Text.Lowercase
import AlertLedger.Text.Named
import AlertLedger.Text.Quote
import AlertLedger.Text.Shapeless
import AlertLedger.Text.Slice
import AlertLedger.Text.Split
import AlertLedger.Text.Utf8
import AlertLedger.Trail
import AlertLedger.Uuid
import AlertLedger.Yaml.Cursor
import AlertLedger.Yaml.Node
import AlertLedger.Yaml.Record
import AlertLedger.Yaml.Scalar
import AlertLedger.Yaml.Token
import AlertLedger.Proofs.Authority.Memory
import AlertLedger.Proofs.Trail.Decision
import AlertLedger.Proofs.Trail.Run
import AlertLedger.Proofs.Trail.Criterion
import AlertLedger.Proofs.Trail.LastEntry
import AlertLedger.Proofs.Text.Hex
import AlertLedger.Proofs.Trail.Repetition
import AlertLedger.Proofs.Json.Number
import AlertLedger.Proofs.Json.String
import AlertLedger.Proofs.Json.Token
import AlertLedger.Proofs.Json.Value
import AlertLedger.Proofs.Encoding.Event
import AlertLedger.Proofs.Store.Tables
import AlertLedger.Proofs.Store.Batches
import AlertLedger.Proofs.Trail.Rows
import AlertLedger.Proofs.Trail.Transparency
import AlertLedger.Proofs.Trail.Replay
import AlertLedger.Proofs.Store.Index
import AlertLedger.Proofs.Sink
import AlertLedger.Proofs.Store.Run
import AlertLedger.Proofs.Store.Account
import AlertLedger.Proofs.Trail.Independence
import AlertLedger.Proofs.Store.Buffering
import AlertLedger.Proofs.Store.Readback
import AlertLedger.Proofs.Store.Calls
import AlertLedger.Proofs.Store.AppendOnly
import AlertLedger.Proofs.Store.Closing
import AlertLedger.Proofs.Sink.Reports
import AlertLedger.Proofs.Trail.Balance
import AlertLedger.Proofs.Authority.LastWrite
import AlertLedger.Proofs.Authority.Tracking
import AlertLedger.Proofs.Command.Replay
import AlertLedger.Proofs.Trail.Silences
import AlertLedger.Proofs.Json.Line
import AlertLedger.Proofs.Text.Blank
import AlertLedger.Proofs.Encoding.Operation
import AlertLedger.Proofs.Operation.Stream
import AlertLedger.Proofs.Trail.Summary
import AlertLedger.Proofs.Store.Schedule
import AlertLedger.Proofs.Store.Pages
import AlertLedger.Proofs.SortedMap.OfList
import AlertLedger.Proofs.LabelSet
import AlertLedger.Proofs.Json.Members
import AlertLedger.Proofs.Operation.Decoding
import AlertLedger.Proofs.Operation.Lines
import AlertLedger.Proofs.Command.Refusal
import AlertLedger.Proofs.Fingerprint.Written
import AlertLedger.Proofs.LabelSet.Pairs
import AlertLedger.Proofs.Command.Labels
import AlertLedger.Proofs.Stats
import AlertLedger.Proofs.Store.Sessions
import AlertLedger.Proofs.Store.Statistics
import AlertLedger.Proofs.Command.StorePath
import AlertLedger.Proofs.LabelSet.Hash
import AlertLedger.Proofs.Text.Lowercase
import AlertLedger.Proofs.Names
import AlertLedger.Proofs.Metrics.Order
import AlertLedger.Proofs.Metrics.Samples
