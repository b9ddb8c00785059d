import SpeechProbe.CommandLine
import SpeechProbe.Control.Call
import SpeechProbe.Control.Inbound
import SpeechProbe.Control.Outbound
import SpeechProbe.Control.Record
import SpeechProbe.Endpoint
import SpeechProbe.Error
import SpeechProbe.Halt
import SpeechProbe.Json.Reader
import SpeechProbe.Json.Record
import SpeechProbe.Json.Typed
import SpeechProbe.Json.Value
import SpeechProbe.Json.Writer
import SpeechProbe.Live.Queue
import SpeechProbe.Live.Source
import SpeechProbe.Main
import SpeechProbe.Number.Binary
import SpeechProbe.Number.Decimal
import SpeechProbe.Number.Rounding
import SpeechProbe.Number.Shortest
import SpeechProbe.Rehearsal
import SpeechProbe.Sample.Cursor
import SpeechProbe.Sample.Framing
import SpeechProbe.Sample.Payload
import SpeechProbe.Session.Basic
import SpeechProbe.Session.Closing
import SpeechProbe.Session.Draining
import SpeechProbe.Session.Journal
import SpeechProbe.Session.Opening
import SpeechProbe.Session.Phase
import SpeechProbe.Session.Plan
import SpeechProbe.Session.Record
import SpeechProbe.Session.Run
import SpeechProbe.Session.Scene
import SpeechProbe.Session.Stats
import SpeechProbe.Session.Streaming
import SpeechProbe.Session.Transport
import SpeechProbe.Settings.Basic
import SpeechProbe.Settings.Effective
import SpeechProbe.Settings.Environment
import SpeechProbe.Settings.Load
import SpeechProbe.Settings.Path
import SpeechProbe.Settings.Tree
import SpeechProbe.Settings.Typed
import SpeechProbe.Signal.Kind
import SpeechProbe.Signal.Noise
import SpeechProbe.Signal.Spec
import SpeechProbe.Signal.Waveform
import SpeechProbe.Source
import SpeechProbe.Text.Blank
import SpeechProbe.Text.Quoted
import SpeechProbe.Text.Unseen
import SpeechProbe.Time.Duration
import SpeechProbe.Time.Moment
import SpeechProbe.Toml.Date
import SpeechProbe.Toml.Document
import SpeechProbe.Toml.Item
import SpeechProbe.Toml.Number
import SpeechProbe.Toml.Reader
import SpeechProbe.Toml.Token
import SpeechProbe.Transcript
import SpeechProbe.Usage
import SpeechProbe.Wave.Bytes
import SpeechProbe.Wave.Format
import SpeechProbe.Wave.Reader
import SpeechProbe.Wave.Recording
import SpeechProbe.Proofs.Frames
import SpeechProbe.Proofs.Letters
import SpeechProbe.Proofs.Json.Members
import SpeechProbe.Proofs.Json.Strings
import SpeechProbe.Proofs.Json.Numbers
import SpeechProbe.Proofs.Json.RoundTrip
import SpeechProbe.Proofs.Control.Announcing
import SpeechProbe.Proofs.Control.Grammar
import SpeechProbe.Proofs.Number.Digits
import SpeechProbe.Proofs.Number.Numerals
import SpeechProbe.Proofs.Number.Rounding
import SpeechProbe.Proofs.Number.Binary
import SpeechProbe.Proofs.Number.Shortest
import SpeechProbe.Proofs.Settings.Overlay
import SpeechProbe.Proofs.Settings.Acceptance
import SpeechProbe.Proofs.Sample.Payload
import SpeechProbe.Proofs.Sample.Reading
import SpeechProbe.Proofs.Sample.Partition
import SpeechProbe.Proofs.Session.Views
import SpeechProbe.Proofs.Session.Passage
import SpeechProbe.Proofs.Session.Steps
import SpeechProbe.Proofs.Session.Courses
import SpeechProbe.Proofs.Session.Invariance
import SpeechProbe.Proofs.Session.Conversation
import SpeechProbe.Proofs.Session.Accounting
import SpeechProbe.Proofs.Session.Audio
import SpeechProbe.Proofs.Session.Samples
import SpeechProbe.Proofs.Session.Trailing
import SpeechProbe.Proofs.Session.Timing
import SpeechProbe.Proofs.Session.Window
import SpeechProbe.Proofs.Session.Stops
import SpeechProbe.Proofs.Session.Allowance
import SpeechProbe.Proofs.Session.Handshake
import SpeechProbe.Proofs.Session.Cadence
import SpeechProbe.Proofs.Session.Desertion
import SpeechProbe.Proofs.Session.Lifecycle
import SpeechProbe.Proofs.Session.Positions
import SpeechProbe.Proofs.Session.Ending
import SpeechProbe.Proofs.Session.Listening
import SpeechProbe.Proofs.Session.Termination
import SpeechProbe.Proofs.Session.Twins
import SpeechProbe.Proofs.Session.Release
import SpeechProbe.Proofs.Live.Handoff
import SpeechProbe.Proofs.Settings.Values
import SpeechProbe.Proofs.Settings.Verbatim
import SpeechProbe.Proofs.Strands
import SpeechProbe.Proofs.StopSignal
import SpeechProbe.Proofs.Settings.Layers
import SpeechProbe.Proofs.Session.Announced
import SpeechProbe.Proofs.Sample.Lengths
import SpeechProbe.Proofs.Wave.FirstChannel
import SpeechProbe.Proofs.Session.Streamable
